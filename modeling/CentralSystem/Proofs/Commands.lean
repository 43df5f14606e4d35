import CentralSystem.Proofs.Errands
import CentralSystem.Proofs.Sending

namespace CentralSystem

theorem Schema.decode_encode {α : Type} {schema : Schema α} (hs : schema.shape.distinct = true)
    {a : α} (hplain : ∀ d ∈ schema.shape.decimals a, d.Plain) :
    schema.decode (schema.encode a) = (schema.check a).map fun _ => a := by
  have hread : schema.shape.decode (schema.encode a) = .ok a :=
    (schema.shape.decode_encode_iff hs a).2 hplain
  have hdecode : schema.decode (schema.encode a) = schema.check a >>= fun _ => .ok a := by
    rw [decode, hread]
    rfl
  rw [hdecode]
  cases schema.check a <;> rfl

namespace Command

def check : Command → Except Error Unit
  | setChargingProfile r => SetChargingProfile.schema.check r
  | clearChargingProfile r => ClearChargingProfile.schema.check r
  | triggerMessage r => TriggerMessage.schema.check r
  | remoteStartTransaction r => RemoteStartTransaction.schema.check r
  | remoteStopTransaction r => RemoteStopTransaction.schema.check r

theorem decode_payload {c : Command} (hplain : ∀ d ∈ c.decimals, d.Plain) :
    decode c.action.name c.payload = c.check.map fun _ => c := by
  have hname : Action.ofName? Action.outbound c.action.name = some c.action := by
    cases c <;> rfl
  have hread : decodeAs? c.action c.payload = some (c.check.map fun _ => c) := by
    cases c with
    | setChargingProfile r =>
      simp only [action, payload, decodeAs?, check, Schema.decode_encode (by decide) hplain]
      cases SetChargingProfile.schema.check r <;> rfl
    | clearChargingProfile r =>
      simp only [action, payload, decodeAs?, check, Schema.decode_encode (by decide) hplain]
      cases ClearChargingProfile.schema.check r <;> rfl
    | triggerMessage r =>
      simp only [action, payload, decodeAs?, check, Schema.decode_encode (by decide) hplain]
      cases TriggerMessage.schema.check r <;> rfl
    | remoteStartTransaction r =>
      simp only [action, payload, decodeAs?, check, Schema.decode_encode (by decide) hplain]
      cases RemoteStartTransaction.schema.check r <;> rfl
    | remoteStopTransaction r =>
      simp only [action, payload, decodeAs?, check, Schema.decode_encode (by decide) hplain]
      cases RemoteStopTransaction.schema.check r <;> rfl
  rw [decode, hname, Option.bind_some, hread]

/-- A command that the decoder takes as it is sent. -/
def Accepted (c : Command) : Prop := decode c.action.name c.payload = .ok c

theorem accepted_of_check {c : Command} (hplain : ∀ d ∈ c.decimals, d.Plain)
    (hc : c.check = .ok ()) : c.Accepted := by
  rw [Accepted, decode_payload hplain, hc]
  rfl

theorem accepted_ofLimit (connectorId id : Int32) (purpose : ProfilePurpose)
    (transaction : Option Int32) (amps : Int32) (now : Timestamp) :
    (setChargingProfile
      ⟨connectorId, .ofLimit id purpose transaction amps now⟩).Accepted :=
  accepted_of_check (plain_ofLimit _ _ _ _ _ _) rfl

def remoteStart (idTag : String) (connector : Option UInt32) : Command :=
  .remoteStartTransaction { connectorId := connector, idTag, chargingProfile := none }

theorem plain_remoteStart (idTag : String) (connector : Option UInt32) :
    ∀ d ∈ (remoteStart idTag connector).decimals, d.Plain := by
  simp [remoteStart, decimals, RemoteStartTransaction.schema, Shape.decimals, Fields.decimals]

theorem check_remoteStart {idTag : String} {connector : Option UInt32}
    (hconnector : connector ≠ some 0) : (remoteStart idTag connector).check =
      if idTag.length ≤ 20 then .ok () else .error (.validation "idTag" "exceeds 20 characters") := by
  have hpositive : connector.getD 1 ≠ 0 := by
    cases connector with
    | none => decide
    | some n => exact fun h => hconnector (congrArg some h)
  by_cases hlength : idTag.length ≤ 20
  · simp [remoteStart, check, Schema.check, RemoteStartTransaction.schema, Bound.positive,
      Bound.length, hpositive, hlength]
  · simp [remoteStart, check, Schema.check, RemoteStartTransaction.schema, Bound.positive,
      Bound.length, hpositive, hlength, Bound.toError]
    rfl

end Command

theorem Errand.Charging.accepted {now : Timestamp} {e : Errand} (h : e.Charging now) :
    e.2.Accepted := by
  cases h with
  | grant g _ hg =>
    obtain ⟨c, hc, rfl⟩ := Option.map_eq_some_iff.1 hg
    rw [Grant.command] at hc
    split at hc
    · obtain rfl := Option.some.inj hc
      exact Command.accepted_ofLimit ..
    · cases hc
  | default station location =>
    simp only [Location.defaultProfile]
    split
    · exact Command.accepted_of_check (List.forall_mem_nil _) rfl
    · exact Command.accepted_ofLimit ..

theorem Watched.accepted_errand (w : Watched) : w.errand.2.Accepted :=
  Command.accepted_of_check (List.forall_mem_nil _) rfl

/-- A text that may wait on a connection: an answer, or a command that is accepted. -/
inductive Fit : String → Prop
  | answer (f : Frame) (hf : f.Legible) (hanswer : (Reply.ofFrame? f).isSome = true) :
    Fit f.render
  | command (c : Command) (uniqueId : String) (h : c.Accepted) : Fit (c.encode uniqueId)

namespace HubStep

inductive Overlong : HubStep → String → Prop
  | remoteStart (station idTag : String) (connector : Option UInt32) (uniqueId : String)
    (hconnector : connector ≠ some 0) (hlength : 20 < idTag.length) :
    Overlong (.remoteStart station idTag connector)
      ((Command.remoteStart idTag connector).encode uniqueId)

/-- What may be queued by a step. -/
def Queues (i : HubStep) (text : String) : Prop := Fit text ∨ i.Overlong text

end HubStep

namespace Switchboard

variable {s s' s'' : Switchboard} {P : String → Prop}

/-- Whatever waits on a connection waited there before, or is such a text. -/
def Adds (P : String → Prop) (s s' : Switchboard) : Prop :=
  ∀ id, ∀ t ∈ s'.outbox id, t ∈ s.outbox id ∨ P t

namespace Adds

theorem of_outbox (h : ∀ id, s'.outbox id = s.outbox id) : Adds P s s' :=
  fun id _ ht => .inl (h id ▸ ht)

theorem of_connections (h : s'.connections = s.connections) : Adds P s s' :=
  of_outbox fun id => by rw [outbox, outbox, connection?, connection?, h]

theorem trans (h : Adds P s s') (h' : Adds P s' s'') : Adds P s s'' := by
  intro id t ht
  rcases h' id t ht with ht | ht
  · exact h id t ht
  · exact .inr ht

theorem imp {Q : String → Prop} (h : Adds P s s') (hpq : ∀ t, P t → Q t) : Adds Q s s' :=
  fun id t ht => (h id t ht).imp_right (hpq t)

end Adds

section Sound

variable (hs : s.Sound)
include hs

theorem adds_send {c : Connection} {text : String} (htext : P text)
    (h : s.send c text = .ok s') : Adds P s s' := by
  intro id t ht
  rw [outbox_of_connection (connection?_of_send hs h id)] at ht
  rw [outbox]
  cases hc : s.connection? id with
  | none =>
    rw [hc] at ht
    cases ht
  | some d =>
    rw [hc] at ht
    refine (List.mem_append.1 ht).imp_right fun ht => ?_
    split at ht
    · exact List.mem_singleton.1 ht ▸ htext
    · cases ht

theorem sound_send {c : Connection} {text : String} (h : s.send c text = .ok s') : s'.Sound := by
  obtain ⟨connections, rfl⟩ := eq_of_send h
  exact hs.of_connection (connection?_of_send hs h) (fun _ _ => rfl) rfl

omit hs in
theorem send_of_reply {id : Nat} {answer : String → Frame} (h : s.reply id answer = .ok s') :
    ∃ c uniqueId, s.send c (answer uniqueId).render = .ok s' := by
  unfold reply at h
  split at h
  · cases h
  · split at h
    · cases h
    · exact ⟨_, _, h⟩

theorem adds_request {station id : String} {c : Command} (htext : ∀ uniqueId, P (c.encode uniqueId))
    (h : s.request station c = .ok (id, s')) : Adds P s s' := by
  unfold request at h
  split at h
  · cases h
  · obtain ⟨sent, hsent, h⟩ := bind_eq_ok.1 h
    obtain ⟨rfl, rfl⟩ := Prod.mk.inj (Except.ok.inj h)
    exact (adds_send hs (htext _) hsent).trans (.of_connections rfl)

theorem sound_give (e : Errand) : (s.give e).Sound := by
  rw [give]
  cases h : s.request e.1 e.2 with
  | error _ => exact hs
  | ok sent => exact (calls_of_request hs h).sound hs

theorem adds_give {e : Errand} (htext : ∀ uniqueId, P (e.2.encode uniqueId)) :
    Adds P s (s.give e) := by
  rw [give]
  cases h : s.request e.1 e.2 with
  | error _ => exact .of_connections rfl
  | ok sent => exact adds_request hs htext h

theorem adds_giveAll {es : List Errand} (htext : ∀ e ∈ es, ∀ uniqueId, P (e.2.encode uniqueId)) :
    Adds P s (s.giveAll es) := by
  induction es generalizing s with
  | nil => exact .of_connections rfl
  | cons e rest ih =>
    have hfirst := adds_give hs (htext e List.mem_cons_self)
    exact hfirst.trans (ih (sound_give hs e) fun e' he' => htext e' (List.mem_cons_of_mem _ he'))

end Sound

end Switchboard

namespace Hub

variable {h : Hub} (hs : h.plant.switchboard.Sound)
include hs

theorem Charges.adds {now : Timestamp} {h' : Hub} (hc : Charges now h h') :
    h.plant.switchboard.Adds Fit h'.plant.switchboard := by
  obtain ⟨es, hes, he⟩ := hc
  rw [he]
  exact Switchboard.adds_giveAll hs fun e hmem uniqueId => .command _ _ (hes e hmem).accepted

theorem adds_refuse (id : Nat) (station : String) (e : Error) :
    h.plant.switchboard.Adds Fit (h.refuse id station e).plant.switchboard := by
  rw [refuse]
  split
  · next s hreply =>
    obtain ⟨c, uniqueId, hsent⟩ := Switchboard.send_of_reply hreply
    exact Switchboard.adds_send hs
      (.answer _ (Frame.legible_refusal uniqueId e.code e.message) rfl) hsent
  · exact .of_connections rfl

theorem adds_receiveCall (now : Timestamp) (id : Nat) (station action : String) (payload : Json) :
    h.plant.switchboard.Adds Fit
      (h.receiveCall now id station action payload).plant.switchboard := by
  rw [receiveCall]
  split
  · next e _ => exact adds_refuse (h := h.note _) hs id station e
  · next r _ =>
    dsimp only
    split
    · next s hreply =>
      obtain ⟨c, uniqueId, hsent⟩ := Switchboard.send_of_reply hreply
      have hadds := Switchboard.adds_send (P := Fit) hs
        (.answer _ (Response.legible_frame _ uniqueId) rfl) hsent
      have hsound := Switchboard.sound_send hs hsent
      exact hadds.trans (Charges.adds (h := Hub.setSwitchboard _ s) hsound
        (charges_followUp now station r))
    · exact .of_connections rfl

theorem adds_receive (now : Timestamp) (id : Nat) (text : String) :
    h.plant.switchboard.Adds Fit (h.receive now id text).plant.switchboard := by
  rw [receive]
  split
  · exact .of_connections rfl
  · next c _ =>
    split
    · exact .of_connections rfl
    · next f _ =>
      cases f with
      | call uniqueId action payload =>
        have hnoted : h.plant.switchboard.Adds Fit (h.plant.switchboard.noteCall id uniqueId) :=
          .of_outbox (h.plant.switchboard.outbox_noteCall id uniqueId)
        exact hnoted.trans (adds_receiveCall (h := h.setSwitchboard _) (hs.noteCall id uniqueId)
          now id c.station action payload)
      | callResult uniqueId payload =>
        rw [receiveFrame]
        split
        · next htake => exact .of_connections (congrArg (·.2.connections) htake).symm
        · next htake => exact .of_connections (congrArg (·.2.connections) htake).symm
      | callError uniqueId code description details => exact .of_connections rfl

theorem adds_step (i : HubStep) :
    h.plant.switchboard.Adds i.Queues (h.step i).plant.switchboard := by
  have hfit {s : Switchboard} (hadds : h.plant.switchboard.Adds Fit s) :
      h.plant.switchboard.Adds i.Queues s := hadds.imp fun _ => .inl
  cases i with
  | connect station => exact .of_outbox (hs.outbox_connect station)
  | disconnect id => exact .of_connections (h.plant.switchboard.connections_disconnect id)
  | hangUp id =>
    intro id' t ht
    rw [step, setSwitchboard, Switchboard.outbox_hangUp] at ht
    split at ht
    · cases ht
    · exact .inl ht
  | flush =>
    intro id' t ht
    rw [step, setSwitchboard, Switchboard.outbox_flush] at ht
    cases ht
  | closeAll | drain | records => exact .of_connections rfl
  | receive now id text => exact hfit (adds_receive hs now id text)
  | handler now w => exact hfit (Charges.adds hs (charges_handlerStep now w))
  | applyDefault now station =>
    rw [step]
    cases hp : h.plant.applyDefault now station with
    | error e => exact .of_connections rfl
    | ok p => exact hfit (Charges.adds hs (.applyDefault hp))
  | remoteStart station idTag connector =>
    rw [step, remoteStart]
    split
    · exact .of_connections rfl
    · next hconnector =>
      cases hsent : h.plant.switchboard.request station
        (.remoteStartTransaction { connectorId := connector, idTag, chargingProfile := none }) with
      | error e => exact .of_connections rfl
      | ok sent =>
        refine Switchboard.adds_request hs (fun uniqueId => ?_) hsent
        by_cases hlength : idTag.length ≤ 20
        · have hc : (Command.remoteStart idTag connector).check = .ok () :=
            (Command.check_remoteStart hconnector).trans (if_pos hlength)
          exact .inl (.command _ uniqueId
            (Command.accepted_of_check (Command.plain_remoteStart idTag connector) hc))
        · exact .inr (.remoteStart station idTag connector uniqueId hconnector
            (Nat.lt_of_not_le hlength))
  | remoteStop station transaction =>
    rw [step, remoteStop]
    cases hsent : h.plant.switchboard.request station
      (.remoteStopTransaction { transactionId := transaction }) with
    | error e => exact .of_connections rfl
    | ok sent =>
      exact hfit (Switchboard.adds_request hs
        (fun uniqueId => .command _ uniqueId (Command.accepted_of_check (List.forall_mem_nil _) rfl))
        hsent)
  | tick =>
    rw [step, tick, switchboard_foldl_trigger]
    refine hfit (Switchboard.adds_giveAll hs fun e he uniqueId => ?_)
    obtain ⟨entry, -, rfl⟩ := List.mem_map.1 he
    exact .command _ uniqueId entry.2.accepted_errand

theorem adds_runSteps (is : List HubStep) :
    h.plant.switchboard.Adds (fun t => ∃ i ∈ is, i.Queues t) (h.runSteps is).plant.switchboard := by
  induction is generalizing h with
  | nil => exact .of_connections rfl
  | cons i rest ih =>
    have hfirst := (adds_step hs i).imp (Q := fun t => ∃ j ∈ i :: rest, j.Queues t)
      fun _ ht => ⟨i, List.mem_cons_self, ht⟩
    refine hfirst.trans ((ih (sound_step hs i)).imp fun _ ht => ?_)
    obtain ⟨j, hj, hqueues⟩ := ht
    exact ⟨j, List.mem_cons_of_mem _ hj, hqueues⟩

end Hub

theorem Hub.outbox_start {settings : Settings} {storage : Storage} {seed : Nat} {h : Hub}
    (hstart : start settings storage seed = .ok h) (id : Nat) :
    h.plant.switchboard.outbox id = [] := by
  obtain ⟨ledger, -, hh⟩ := bind_eq_ok.1 hstart
  obtain rfl := Except.ok.inj hh
  rfl

/-- However a hub is run, every text that waits on a connection is a frame, and every Call among them
is a command that the decoder takes back unchanged, unless it passes on a tag of more than twenty
characters that the operator asked to start with: this tag is then refused. -/
theorem queued_runSteps {settings : Settings} {storage : Storage} {seed : Nat} {h₀ : Hub}
    (hstart : Hub.start settings storage seed = .ok h₀) (is : List HubStep) (id : Nat)
    (text : String) (hqueued : text ∈ (h₀.runSteps is).plant.switchboard.outbox id) :
    ∃ f, Frame.parse text = .ok f ∧ ∀ uniqueId action payload, f = .call uniqueId action payload →
      (∃ c, Command.decode action payload = .ok c ∧ c.frame uniqueId = f) ∨
      ∃ station idTag connector, .remoteStart station idTag connector ∈ is ∧ 20 < idTag.length ∧
        (Command.remoteStart idTag connector).frame uniqueId = f ∧
        Command.decode action payload = .error (.validation "idTag" "exceeds 20 characters") := by
  rcases Hub.adds_runSteps (Hub.sound_start hstart) is id text hqueued
    with hbefore | ⟨i, hi, hqueues⟩
  · rw [Hub.outbox_start hstart] at hbefore
    cases hbefore
  rcases hqueues with hfit | hlong
  · cases hfit with
    | answer f hf hanswer =>
      refine ⟨f, Frame.parse_render hf, fun uniqueId action payload he => ?_⟩
      rw [he] at hanswer
      cases hanswer
    | command c uniqueId hc =>
      refine ⟨_, Frame.parse_render (c.legible_frame uniqueId), fun _ _ _ he => .inl ⟨c, ?_, ?_⟩⟩
      · obtain ⟨rfl, rfl, rfl⟩ := Frame.call.inj he
        exact hc
      · obtain ⟨rfl, rfl, rfl⟩ := Frame.call.inj he
        rfl
  · cases hlong with
    | remoteStart station idTag connector uniqueId hconnector hlength =>
      refine ⟨_, Frame.parse_render (Command.legible_frame _ uniqueId), fun _ _ _ he =>
        .inr ⟨station, idTag, connector, hi, hlength, ?_, ?_⟩⟩
      · obtain ⟨rfl, rfl, rfl⟩ := Frame.call.inj he
        rfl
      · obtain ⟨rfl, rfl, rfl⟩ := Frame.call.inj he
        rw [Command.decode_payload (Command.plain_remoteStart idTag connector),
          Command.check_remoteStart hconnector, if_neg (Nat.not_le_of_lt hlength)]
        rfl

namespace HubStep

def remoteStarts (idTag : String) : List HubStep :=
  arrivals ++ [.remoteStart "north" idTag none]

end HubStep

theorem queued_runSteps_depot :
    let text := (Command.remoteStart "tag" none).encode (Switchboard.uniqueId 0 1)
    Hub.start Hub.depot.settings { database := .depot } 0 = .ok .idleDepot ∧
      text ∈ (Hub.idleDepot.runSteps (HubStep.remoteStarts "tag")).plant.switchboard.outbox 1 ∧
      ∃ f, Frame.parse text = .ok f ∧
        ∀ uniqueId action payload, f = .call uniqueId action payload →
          ∃ c, Command.decode action payload = .ok c ∧ c.frame uniqueId = f := by
  intro text
  have hqueued :
      text ∈ (Hub.idleDepot.runSteps (HubStep.remoteStarts "tag")).plant.switchboard.outbox 1 := by
    decide +kernel
  obtain ⟨f, hf, hcalls⟩ := queued_runSteps Hub.start_depot _ 1 text hqueued
  refine ⟨Hub.start_depot, hqueued, f, hf, fun uniqueId action payload he => ?_⟩
  rcases hcalls uniqueId action payload he with hc | ⟨station, idTag, connector, hi, hlength, -⟩
  · exact hc
  · obtain ⟨rfl, rfl, rfl⟩ : station = "north" ∧ idTag = "tag" ∧ connector = none := by
      simpa [HubStep.remoteStarts, HubStep.arrivals] using hi
    exact absurd hlength (by decide)

/-- A tag of twenty-one characters is passed on, and the Call is not taken. -/
theorem overlong_tag_not_accepted :
    ¬ ∀ is id text, text ∈ (Hub.idleDepot.runSteps is).plant.switchboard.outbox id →
      ∀ uniqueId action payload, Frame.parse text = .ok (.call uniqueId action payload) →
        ∃ c, Command.decode action payload = .ok c := by
  intro haccepted
  let c := Command.remoteStart "AAAAAAAAAAAAAAAAAAAAA" none
  obtain ⟨c', hc'⟩ := haccepted (HubStep.remoteStarts "AAAAAAAAAAAAAAAAAAAAA") 1
    (c.encode (Switchboard.uniqueId 0 1)) (by decide +kernel) _ _ _
    (Frame.parse_render (c.legible_frame _))
  have hrefused : Command.decode c.action.name c.payload =
      .error (.validation "idTag" "exceeds 20 characters") := by
    rw [Command.decode_payload (Command.plain_remoteStart _ _)]
    rfl
  rw [hrefused] at hc'
  cases hc'

end CentralSystem
