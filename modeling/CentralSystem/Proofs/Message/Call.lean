import CentralSystem.Message.Command
import CentralSystem.Message.Request
import CentralSystem.Proofs.Message.Shape

namespace CentralSystem

namespace Action

theorem of_ofName?_eq_some {actions : List Action} {name : String} {a : Action}
    (h : ofName? actions name = some a) : a.name = name := by
  simpa using List.find?_some h

end Action

namespace Schema

variable {α : Type} {schema : Schema α}

theorem decode_eq_ok_iff {payload : Json} {a : α} :
    schema.decode payload = .ok a ↔
      schema.shape.decode payload = .ok a ∧ schema.check a = .ok () := by
  rw [decode, bind_eq_ok]
  simp only [mapError_eq_ok_iff, bind_eq_ok, pure, Except.pure, Except.ok.injEq]
  constructor
  · rintro ⟨b, hb, _, hcheck, rfl⟩
    exact ⟨hb, hcheck⟩
  · rintro ⟨ha, hcheck⟩
    exact ⟨a, ha, (), hcheck, rfl⟩

/-- What was accepted once is read back from what is written of it, just when its decimals are. -/
theorem decode_encode_iff (hs : schema.shape.distinct = true) {payload : Json} {a : α}
    (h : schema.decode payload = .ok a) :
    (∃ a', schema.decode (schema.encode a) = .ok a' ∧ schema.encode a' = schema.encode a) ↔
      ∀ d ∈ schema.shape.decimals a, d.Plain := by
  have hcheck := (decode_eq_ok_iff.1 h).2
  rw [← schema.shape.decode_encode_iff hs a]
  constructor
  · rintro ⟨a', hread, he⟩
    obtain rfl := schema.shape.encode_injective hs he
    exact (decode_eq_ok_iff.1 hread).1
  · intro hread
    exact ⟨a, decode_eq_ok_iff.2 ⟨hread, hcheck⟩, rfl⟩

theorem map_decode_iff {μ : Type} {make : α → μ} (payloadOf : μ → Json) {payload : Json} {m : μ}
    (h : (schema.decode payload).map make = .ok m) (hs : schema.shape.distinct = true)
    (hpayload : ∀ a, payloadOf (make a) = schema.encode a) :
    ∃ a, m = make a ∧
      ((∃ m', (schema.decode (payloadOf m)).map make = .ok m' ∧ payloadOf m' = payloadOf m) ↔
        ∀ d ∈ schema.shape.decimals a, d.Plain) := by
  obtain ⟨a, ha, rfl⟩ := map_eq_ok_iff.1 h
  refine ⟨a, rfl, ?_⟩
  rw [← decode_encode_iff hs ha, hpayload]
  constructor
  · rintro ⟨m', hm', he⟩
    obtain ⟨a', ha', rfl⟩ := map_eq_ok_iff.1 hm'
    exact ⟨a', ha', (hpayload a').symm.trans he⟩
  · rintro ⟨a', ha', he⟩
    exact ⟨make a', map_eq_ok_iff.2 ⟨a', ha', rfl⟩, (hpayload a').trans he⟩

end Schema

namespace Request

theorem legible_frame (r : Request) (uniqueId : String) : (r.frame uniqueId).Legible := by
  cases r <;> exact
    ⟨⟨rfl, (Shape.within_encode _ _).mono (by decide)⟩, Shape.unmarked_encode _ (by decide) _⟩

theorem decodeAs?_payload {a : Action} {payload : Json} {r : Request}
    (h : decodeAs? a payload = some (.ok r)) :
    r.action = a ∧ ∃ r', decodeAs? a r.payload = some (.ok r') ∧ r'.payload = r.payload := by
  cases a
  case bootNotification | authorize | heartbeat | startTransaction | stopTransaction | meterValues |
      statusNotification | dataTransfer | diagnosticsStatusNotification |
      firmwareStatusNotification =>
    obtain ⟨q, rfl, hread⟩ :=
      Schema.map_decode_iff Request.payload (Option.some.inj h) (by decide) fun _ => rfl
    obtain ⟨r', hr', he⟩ := hread.2 (by rw [Shape.decimals_eq_nil _ (by decide)]; simp)
    exact ⟨rfl, r', congrArg some hr', he⟩
  all_goals exact nomatch h

theorem decode_eq_ok_iff {action : String} {payload : Json} {r : Request} :
    decode action payload = .ok r ↔
      ∃ a, Action.ofName? Action.inbound action = some a ∧ decodeAs? a payload = some (.ok r) := by
  unfold decode
  split
  · next result h =>
    obtain ⟨a, ha, hresult⟩ := Option.bind_eq_some_iff.1 h
    simp [ha, hresult]
  · next h =>
    refine ⟨fun he => (nomatch he), fun ⟨a, ha, hr⟩ => ?_⟩
    rw [ha, Option.bind_some, hr] at h
    cases h

theorem decode_payload {action : String} {payload : Json} {r : Request}
    (h : decode action payload = .ok r) :
    r.action.name = action ∧ ∃ r', decode action r.payload = .ok r' ∧ r'.payload = r.payload := by
  obtain ⟨a, ha, hr⟩ := decode_eq_ok_iff.1 h
  obtain ⟨rfl, r', hr', he⟩ := decodeAs?_payload hr
  exact ⟨Action.of_ofName?_eq_some ha, r', decode_eq_ok_iff.2 ⟨_, ha, hr'⟩, he⟩

end Request

namespace Command

theorem legible_frame (c : Command) (uniqueId : String) : (c.frame uniqueId).Legible := by
  cases c <;> exact
    ⟨⟨rfl, (Shape.within_encode _ _).mono (by decide)⟩, Shape.unmarked_encode _ (by decide) _⟩

def decimals : Command → List Decimal
  | setChargingProfile r => SetChargingProfile.schema.shape.decimals r
  | clearChargingProfile r => ClearChargingProfile.schema.shape.decimals r
  | triggerMessage r => TriggerMessage.schema.shape.decimals r
  | remoteStartTransaction r => RemoteStartTransaction.schema.shape.decimals r
  | remoteStopTransaction r => RemoteStopTransaction.schema.shape.decimals r

theorem decodeAs?_payload_iff {a : Action} {payload : Json} {c : Command}
    (h : decodeAs? a payload = some (.ok c)) :
    c.action = a ∧ ((∃ c', decodeAs? a c.payload = some (.ok c') ∧ c'.payload = c.payload) ↔
      ∀ d ∈ c.decimals, d.Plain) := by
  cases a
  case setChargingProfile | clearChargingProfile | triggerMessage | remoteStartTransaction |
      remoteStopTransaction =>
    obtain ⟨q, rfl, hread⟩ :=
      Schema.map_decode_iff Command.payload (Option.some.inj h) (by decide) fun _ => rfl
    refine ⟨rfl, Iff.trans ?_ hread⟩
    simp only [decodeAs?, Command.payload, Option.some.injEq]
  all_goals exact nomatch h

theorem decode_eq_ok_iff {action : String} {payload : Json} {c : Command} :
    decode action payload = .ok c ↔
      ∃ a, Action.ofName? Action.outbound action = some a ∧ decodeAs? a payload = some (.ok c) := by
  unfold decode
  split
  · next result h =>
    obtain ⟨a, ha, hresult⟩ := Option.bind_eq_some_iff.1 h
    simp [ha, hresult]
  · next h =>
    refine ⟨fun he => (nomatch he), fun ⟨a, ha, hc⟩ => ?_⟩
    rw [ha, Option.bind_some, hc] at h
    cases h

theorem decode_payload_iff {action : String} {payload : Json} {c : Command}
    (h : decode action payload = .ok c) :
    c.action.name = action ∧
      ((∃ c', decode action c.payload = .ok c' ∧ c'.payload = c.payload) ↔
        ∀ d ∈ c.decimals, d.Plain) := by
  obtain ⟨a, ha, hc⟩ := decode_eq_ok_iff.1 h
  obtain ⟨rfl, hread⟩ := decodeAs?_payload_iff hc
  refine ⟨Action.of_ofName?_eq_some ha, Iff.trans ?_ hread⟩
  simp only [decode_eq_ok_iff, ha, Option.some.injEq, exists_eq_left']

end Command

/-- A request that was accepted in any spelling is read back from the Call that is written of it. A
command is read back just when each of its decimals is. -/
theorem call_round_trip (action : String) (payload : Json) (uniqueId : String) :
    (∀ r, Request.decode action payload = .ok r →
      r.action.name = action ∧
      Frame.parse (r.encode uniqueId) = .ok (.call uniqueId action r.payload) ∧
      ∃ r', Request.decode action r.payload = .ok r' ∧ r'.payload = r.payload) ∧
    ∀ c, Command.decode action payload = .ok c →
      c.action.name = action ∧
      Frame.parse (c.encode uniqueId) = .ok (.call uniqueId action c.payload) ∧
      ((∃ c', Command.decode action c.payload = .ok c' ∧ c'.payload = c.payload) ↔
        ∀ d ∈ c.decimals, d.Plain) := by
  constructor
  · intro r h
    obtain ⟨rfl, hread⟩ := Request.decode_payload h
    exact ⟨rfl, Frame.parse_render (r.legible_frame uniqueId), hread⟩
  · intro c h
    obtain ⟨rfl, hread⟩ := Command.decode_payload_iff h
    exact ⟨rfl, Frame.parse_render (c.legible_frame uniqueId), hread⟩

namespace Command

def limiting (limit : Json) : Json :=
  .object [("connectorId", .ofNat 1), ("csChargingProfiles", .object [
    ("chargingProfileId", .ofNat 1), ("chargingProfileKind", .string "Relative"),
    ("chargingProfilePurpose", .string "TxProfile"),
    ("chargingSchedule", .object [("chargingRateUnit", .string "A"),
      ("chargingSchedulePeriod", .array [.object [("limit", limit), ("startPeriod", .ofNat 0)]])]),
    ("stackLevel", .ofNat 0)])]

def limited (limit : Decimal) : Command :=
  .setChargingProfile ⟨1, 1, none, 0, .txProfile, .relative, none, none, none,
    none, none, .ampere, [⟨0, limit, none⟩], none⟩

end Command

theorem call_round_trip_respelled :
    let start : Json := .array [.ofNat 1, .string "tag", .ofInt (-5), .null,
      .string "2017-1-1t00:59:60.5 +01:00"]
    let r : Request := .startTransaction ⟨1, "tag", -5, none,
      { date := ⟨2016, 12, 31⟩, time := ⟨23, 59, 60, 500000000⟩ }⟩
    let c := Command.limited { negative := false, coefficient := 1650, scale := 2 }
    (Request.decode "StartTransaction" start = .ok r ∧
      Frame.parse (r.encode "7") = .ok (.call "7" "StartTransaction" r.payload) ∧
      ∃ r', Request.decode "StartTransaction" r.payload = .ok r' ∧ r'.payload = r.payload) ∧
    Command.decode "SetChargingProfile" (Command.limiting (.string "16.50")) = .ok c ∧
      ∃ c', Command.decode "SetChargingProfile" c.payload = .ok c' ∧ c'.payload = c.payload := by
  intro start r c
  have hr : Request.decode "StartTransaction" start = .ok r := by decide +kernel
  have hc : Command.decode "SetChargingProfile" (Command.limiting (.string "16.50")) = .ok c := by
    decide +kernel
  have hplain : ∀ d ∈ c.decimals, d.Plain := by decide
  exact ⟨⟨hr, ((call_round_trip _ start "7").1 r hr).2⟩, hc,
    ((call_round_trip _ (Command.limiting (.string "16.50")) "7").2 c hc).2.2.2 hplain⟩

/-- A limit of `1e28` is accepted as a text and written as a whole number, which is then refused. -/
theorem wide_limit_not_read_back :
    ¬ ∀ c, Command.decode "SetChargingProfile" (Command.limiting (.string "1e28")) = .ok c →
      ∃ c', Command.decode "SetChargingProfile" c.payload = .ok c' ∧ c'.payload = c.payload := by
  intro h
  let c := Command.limited { negative := false, coefficient := 10 ^ 28, scale := 0 }
  have hc : Command.decode "SetChargingProfile" (Command.limiting (.string "1e28")) = .ok c := by
    decide +kernel
  have hwide : ¬ ∀ d ∈ c.decimals, d.Plain := by decide
  exact hwide ((Command.decode_payload_iff hc).2.1 (h c hc))

end CentralSystem
