import CentralSystem.Proofs.Traffic

namespace CentralSystem

theorem Decimal.plain_ofInt32 (i : Int32) : (Decimal.ofInt32 i).Plain := by
  refine ⟨fun h => (nomatch h), fun h => ?_⟩
  simp only [ofInt32, decide_eq_true_eq] at h ⊢
  omega

namespace Command

def ofText? (text : String) : Option Command :=
  match Frame.parse text with
  | .ok (.call _ action payload) => (decode action payload).toOption
  | _ => none

def txProfile? : Command → Option SetChargingProfile
  | .setChargingProfile r =>
    if r.csChargingProfiles.chargingProfilePurpose = .txProfile then some r else none
  | _ => none

theorem ofText?_encode (c : Command) (uniqueId : String) :
    ofText? (c.encode uniqueId) = (decode c.action.name c.payload).toOption := by
  rw [ofText?, encode, Frame.parse_render (c.legible_frame uniqueId)]
  rfl

theorem decode_setChargingProfile {r : SetChargingProfile}
    (hplain : ∀ d ∈ (setChargingProfile r).decimals, d.Plain) :
    decode Action.setChargingProfile.name (SetChargingProfile.schema.encode r) =
      .ok (.setChargingProfile r) := by
  have hread := (SetChargingProfile.schema.shape.decode_encode_iff (by decide) r).2 hplain
  refine decode_eq_ok_iff.2 ⟨.setChargingProfile, by decide, congrArg some (map_eq_ok_iff.2 ?_)⟩
  exact ⟨r, Schema.decode_eq_ok_iff.2 ⟨hread, rfl⟩, rfl⟩

theorem action_of_decode_payload {c c' : Command}
    (h : decode c.action.name c.payload = .ok c') : c'.action = c.action := by
  obtain ⟨a, ha, hc⟩ := decode_eq_ok_iff.1 h
  have hname : Action.ofName? Action.outbound c.action.name = some c.action := by
    cases c <;> rfl
  rw [(decodeAs?_payload_iff hc).1]
  exact Option.some.inj (ha.symm.trans hname)

theorem txProfile?_encode {c : Command} (uniqueId : String)
    (hplain : ∀ d ∈ c.decimals, d.Plain) :
    (ofText? (c.encode uniqueId)).bind txProfile? = c.txProfile? := by
  rw [ofText?_encode]
  have hother (hc : c.action ≠ .setChargingProfile) :
      (decode c.action.name c.payload).toOption.bind txProfile? = none := by
    cases hd : decode c.action.name c.payload with
    | error e => rfl
    | ok c' =>
      have ha := action_of_decode_payload hd
      cases c' with
      | setChargingProfile r => exact absurd ha.symm hc
      | _ => rfl
  cases c with
  | setChargingProfile r =>
    have hd := decode_setChargingProfile hplain
    simp only [action, payload]
    rw [hd]
    rfl
  | _ => exact hother (by simp [action])

end Command

abbrev Delivery := String × Command.SetChargingProfile

def Delivery.among (texts : List String) : List Command.SetChargingProfile :=
  texts.filterMap fun t => (Command.ofText? t).bind Command.txProfile?

def Connection.face (c : Connection) : String × Bool := (c.station, c.isOpen)

namespace Switchboard

variable {s s' s'' : Switchboard}

def reaches (s : Switchboard) (station : String) : Bool :=
  ((s.online.get? station).bind s.connection?).any (·.isOpen)

theorem reaches_of_face (ho : s'.online = s.online) (hf : ∀ id,
    (s'.connection? id).map Connection.face = (s.connection? id).map Connection.face)
    (station : String) : s'.reaches station = s.reaches station := by
  have hany (t : Switchboard) (id : Nat) :
      (t.connection? id).any (·.isOpen) = ((t.connection? id).map Connection.face).any (·.2) := by
    cases t.connection? id <;> rfl
  rw [reaches, reaches, ho]
  cases s.online.get? station with
  | none => rfl
  | some id =>
    simp only [Option.bind_some]
    rw [hany, hf, ← hany]

/-- Profiles were queued in between, each on the connection over which its charge point is reached.
-/
structure Sends (s s' : Switchboard) (deliveries : List Delivery) : Prop where
  outbox : ∀ id, ∃ texts, s'.outbox id = s.outbox id ++ texts ∧ Delivery.among texts =
    (deliveries.filter fun d => s.online.get? d.1 = some id).map (·.2)
  online : s'.online = s.online
  face : ∀ id, (s'.connection? id).map Connection.face = (s.connection? id).map Connection.face

namespace Sends

theorem of_connections (hc : s'.connections = s.connections) (ho : s'.online = s.online) :
    s.Sends s' [] := by
  have hsame (id : Nat) : s'.connection? id = s.connection? id := by
    rw [connection?, connection?, hc]
  exact ⟨fun id => ⟨[], by rw [Switchboard.outbox, hsame, List.append_nil]; rfl, rfl⟩, ho,
    fun id => by rw [hsame]⟩

theorem refl (s : Switchboard) : s.Sends s [] := of_connections rfl rfl

theorem trans {ds ds' : List Delivery} (h : s.Sends s' ds) (h' : s'.Sends s'' ds') :
    s.Sends s'' (ds ++ ds') where
  outbox id := by
    obtain ⟨texts, he, hd⟩ := h.outbox id
    obtain ⟨texts', he', hd'⟩ := h'.outbox id
    refine ⟨texts ++ texts', by rw [he', he, List.append_assoc], ?_⟩
    rw [h.online] at hd'
    rw [Delivery.among, List.filterMap_append, List.filter_append, List.map_append]
    exact congrArg₂ (· ++ ·) hd hd'
  online := h'.online.trans h.online
  face id := (h'.face id).trans (h.face id)

theorem reaches_eq {ds : List Delivery} (h : s.Sends s' ds) (station : String) :
    s'.reaches station = s.reaches station :=
  reaches_of_face h.online h.face station

end Sends

section Request

variable (hs : s.Sound) {station : String} {c : Command}
include hs

theorem request_of_reaches (hr : s.reaches station = true) (c : Command) :
    ∃ id s', s.request station c = .ok (id, s') := by
  obtain ⟨d, hd, hopen⟩ := (Option.any_eq_true _ _).1 hr
  obtain ⟨id, -, hcon⟩ := Option.bind_eq_some_iff.1 hd
  have hid : d.id = id := hs.id hcon
  obtain ⟨sent, hsent⟩ : ∃ sent,
      s.send d (c.encode (uniqueId s.seed (s.issued + 1))) = .ok sent := by
    simp only [send, hid, hcon, hopen, ↓reduceIte]
    exact ⟨_, rfl⟩
  simp only [request, hd, hsent]
  exact ⟨_, _, rfl⟩

theorem sends_of_request (hplain : ∀ d ∈ c.decimals, d.Plain) {id : String}
    (h : s.request station c = .ok (id, s')) :
    s.Sends s' (c.txProfile?.toList.map (station, ·)) := by
  unfold request at h
  split at h
  · cases h
  · next d hd =>
    obtain ⟨k, hk, hcon⟩ := Option.bind_eq_some_iff.1 hd
    obtain rfl : d.id = k := hs.id hcon
    obtain ⟨sent, hsent, h⟩ := bind_eq_ok.1 h
    obtain ⟨rfl, rfl⟩ := Prod.mk.inj (Except.ok.inj h)
    have hconnection := connection?_of_send hs hsent
    have honline : sent.online = s.online := by
      obtain ⟨connections, rfl⟩ := eq_of_send hsent
      rfl
    refine ⟨fun i => ?_, honline, fun i => ?_⟩
    · have hout := outbox_of_connection (hconnection i)
      by_cases hi : i = d.id
      · subst hi
        refine ⟨[c.encode (uniqueId s.seed (s.issued + 1))], ?_, ?_⟩
        · refine hout.trans ?_
          rw [Switchboard.outbox, hcon, if_pos rfl]
          rfl
        · have hread := Command.txProfile?_encode (uniqueId s.seed (s.issued + 1)) hplain
          cases hp : c.txProfile? with
          | none => simp [Delivery.among, hread, hp]
          | some r => simp [Delivery.among, hread, hp, hk]
      · refine ⟨[], ?_, ?_⟩
        · refine hout.trans ?_
          rw [Switchboard.outbox, if_neg hi, List.append_nil]
          cases s.connection? i with
          | none => rfl
          | some c => exact List.append_nil _
        · have hne : d.id ≠ i := fun he => hi he.symm
          cases c.txProfile? with
          | none => rfl
          | some r => simp [Delivery.among, hk, hne]
    · have hf : Connection.face ∘ (·.queue (if i = d.id then
          [c.encode (uniqueId s.seed (s.issued + 1))] else [])) = Connection.face := rfl
      have hi := congrArg (Option.map Connection.face) (hconnection i)
      rw [Option.map_map, hf] at hi
      exact hi

end Request

theorem sends_answered (hs : s.Sound) {id : Nat} {c : Connection} (hc : s.connection? id = some c)
    {answer : Frame} (ha : answer.Legible) (hanswer : (Reply.ofFrame? answer).isSome = true) :
    s.Sends (s.answered c answer) [] := by
  obtain rfl : c.id = id := hs.id hc
  have hnone : Command.ofText? answer.render = none := by
    rw [Command.ofText?, Frame.parse_render ha]
    cases answer with
    | call uniqueId action payload => cases hanswer
    | callResult uniqueId payload => rfl
    | callError uniqueId code description details => rfl
  refine ⟨fun i => ?_, rfl, fun i => ?_⟩
  · by_cases hi : i = c.id
    · subst hi
      refine ⟨[answer.render], ?_, by simp [Delivery.among, hnone]⟩
      rw [outbox, connection?_answered, if_pos rfl, outbox, hc]
      rfl
    · refine ⟨[], ?_, rfl⟩
      rw [outbox, connection?_answered, if_neg hi, outbox, List.append_nil]
  · rw [connection?_answered]
    split
    · next hi =>
      rw [hi, hc]
      rfl
    · rfl

end Switchboard

theorem Command.plain_ofLimit (connectorId id : Int32) (purpose : ProfilePurpose)
    (transaction : Option Int32) (amps : Int32) (now : Timestamp) :
    ∀ d ∈ (setChargingProfile
      ⟨connectorId, .ofLimit id purpose transaction amps now⟩).decimals, d.Plain := by
  have hone : (setChargingProfile
      ⟨connectorId, .ofLimit id purpose transaction amps now⟩).decimals = [.ofInt32 amps] := by
    simp [decimals, SetChargingProfile.schema, ChargingProfile.shape, ChargingSchedule.shape,
      SchedulePeriod.shape, ChargingProfile.ofLimit, Shape.decimals, Fields.decimals]
  rw [hone]
  exact List.forall_mem_singleton.2 (Decimal.plain_ofInt32 amps)

def Grant.delivery? (now : Timestamp) (g : Grant) : Option Delivery :=
  (g.command now).toOption.bind fun c => c.txProfile?.map (g.chargePoint, ·)

theorem Grant.delivery?_eq (now : Timestamp) (g : Grant) : g.delivery? now =
    if g.connector.toNat < 2 ^ 31 then
      some (g.chargePoint, ⟨.ofNat g.connector.toNat,
        .ofLimit g.transaction .txProfile (some g.transaction) g.amps now⟩)
    else none := by
  unfold delivery? command
  split <;> rfl

namespace Plant

variable {p : Plant} (hs : p.switchboard.Sound)
include hs

theorem sends_command (station : String) {c : Command} (hplain : ∀ d ∈ c.decimals, d.Plain)
    (hr : c.txProfile? = none ∨ p.switchboard.reaches station = true) (failed : Error → Notice) :
    p.switchboard.Sends (p.command station c failed).switchboard
      (c.txProfile?.toList.map (station, ·)) := by
  unfold command
  split
  · next h => exact Switchboard.sends_of_request hs hplain h
  · next e h =>
    rcases hr with hnone | hr
    · rw [hnone]
      exact .refl _
    · obtain ⟨id, s', hok⟩ := Switchboard.request_of_reaches hs hr c
      rw [hok] at h
      cases h

theorem sends_sendGrant (now : Timestamp) {g : Grant}
    (hr : p.switchboard.reaches g.chargePoint = true) :
    p.switchboard.Sends (sendGrant now p g).switchboard (g.delivery? now).toList := by
  unfold sendGrant Grant.delivery?
  cases hc : g.command now with
  | error e => exact .refl _
  | ok c =>
    have hplain : ∀ d ∈ c.decimals, d.Plain := by
      rw [Grant.command] at hc
      split at hc
      · obtain rfl := Except.ok.inj hc
        exact Command.plain_ofLimit _ _ _ _ _ _
      · cases hc
    have hsent := sends_command hs g.chargePoint hplain (.inr hr)
      (.profileNotSent g.chargePoint g.connector)
    cases hp : c.txProfile? with
    | none => simpa [hp, Except.toOption] using hsent
    | some r => simpa [hp, Except.toOption] using hsent

theorem sends_foldl_sendGrant (now : Timestamp) (grants : List Grant)
    (hr : ∀ g ∈ grants, p.switchboard.reaches g.chargePoint = true) :
    p.switchboard.Sends (grants.foldl (sendGrant now) p).switchboard
      (grants.filterMap (·.delivery? now)) := by
  induction grants generalizing p with
  | nil => exact .refl _
  | cons g rest ih =>
    have hfirst := sends_sendGrant hs now (hr g List.mem_cons_self)
    have hrest := ih ((calls_sendGrant hs now g).sound hs) fun g' hg' => by
      rw [hfirst.reaches_eq]
      exact hr g' (List.mem_cons_of_mem _ hg')
    have hboth := hfirst.trans hrest
    rw [List.filterMap_cons]
    cases hd : g.delivery? now with
    | none => simpa [hd] using hboth
    | some d => simpa [hd] using hboth

omit hs in
/-- The limits behind the sharing of power that a charge point asks for can be added up. -/
def SiteAddsUp (tiers : PowerTiers) (l : Ledger) (station : String) : Prop :=
  ∀ location, l.database.locationOf? station = some location →
    AddsUp (heldAfter tiers (smartConnectors l (site l location station)))

omit hs in
def deliveries (tiers : PowerTiers) (now : Timestamp) (l : Ledger) (station : String) :
    List Delivery :=
  (l.database.locationOf? station).elim [] fun location =>
    ((announced tiers (smartConnectors l (site l location station))).getD []).filterMap
      (·.delivery? now)

theorem sends_shareOut (tiers : PowerTiers) (now : Timestamp) (location : Location)
    (cs : List (String × Connector)) (hr : ∀ e ∈ cs, p.switchboard.reaches e.1 = true) :
    p.switchboard.Sends (p.shareOut tiers now location cs).2.switchboard
      (((announced tiers cs).getD []).filterMap (·.delivery? now)) := by
  rw [shareOut_eq, announce, announced]
  cases addUp? (heldAfter tiers cs) with
  | none => exact .refl _
  | some sum =>
    dsimp only
    generalize hq : Plant.checkTotal { p with ledger := assign p.ledger (assignments tiers cs) }
      location sum = q
    have hsame : q.switchboard = p.switchboard := hq ▸ switchboard_checkTotal ..
    have hsent := sends_foldl_sendGrant (p := q) (hsame ▸ hs) now
      ((granted tiers cs).map Assignment.grant) fun g hg => by
        obtain ⟨a, ha, rfl⟩ := List.mem_map.1 hg
        rw [hsame]
        exact hr a.1 (mem_of_mem_assignments (List.mem_append_right _ ha)).1
    rwa [hsame] at hsent

theorem sends_checkPowerLimit (hw : p.ledger.storage.broken = []) (hk : p.ledger.Keyed)
    (hr : ∀ s, p.ledger.database.isSmart s = true → p.switchboard.reaches s = true)
    (tiers : PowerTiers) (now : Timestamp) (station : String) :
    ∃ result q, p.checkPowerLimit tiers now station = .ok (result, q) ∧
      p.switchboard.Sends q.switchboard (deliveries tiers now p.ledger station) := by
  unfold deliveries
  cases hl : p.ledger.database.locationOf? station with
  | none =>
    obtain ⟨q, hq, -, hsame⟩ := checkPowerLimit_of_none hw hl tiers now
    exact ⟨some [], q, hq, hsame ▸ .refl _⟩
  | some location =>
    have hshared := checkPowerLimit_of_some hw hl tiers now
    have hsent := sends_shareOut hs tiers now location
      (smartConnectors p.ledger (site p.ledger location station)) fun e he =>
        hr e.1 ((mem_smartConnectors hk.1.connector).1 he).2.1
    exact ⟨_, _, hshared, hsent⟩

theorem sends_applyDefault (hw : p.ledger.storage.broken = []) (now : Timestamp)
    (station : String) :
    ∃ q, p.applyDefault now station = .ok q ∧ p.switchboard.Sends q.switchboard [] := by
  cases hl : p.ledger.database.locationOf? station with
  | none =>
    obtain ⟨q, hq, -, hsame⟩ := applyDefault_of_none hw hl now
    exact ⟨q, hq, hsame ▸ .refl _⟩
  | some location =>
    refine ⟨_, applyDefault_of_some hw hl now, ?_⟩
    have hnone : (location.defaultProfile now).txProfile? = none := by
      unfold Location.defaultProfile
      split <;> rfl
    have hplain : ∀ d ∈ (location.defaultProfile now).decimals, d.Plain := by
      unfold Location.defaultProfile
      split
      · exact List.forall_mem_nil _
      · exact Command.plain_ofLimit _ _ _ _ _ _
    have hsent := sends_command hs station hplain (.inl hnone) (.defaultProfileNotSent station)
    rwa [hnone] at hsent

end Plant

namespace HubStep

/-- Whether a connection comes or goes, or what is queued is written out. -/
def rewires : HubStep → Bool
  | connect _ | disconnect _ | hangUp _ | closeAll | flush => true
  | _ => false

end HubStep

namespace Hub

variable {h : Hub} {tiers : PowerTiers}

/-- The profiles that are sent with a step. -/
def deliveries (h : Hub) (tiers : PowerTiers) (i : HubStep) : List Delivery :=
  (h.sharer? i).elim [] fun e => Plant.deliveries tiers e.1 (h.answered i) e.2

theorem sends_foldl_trigger (entries : List (Int32 × Watched)) {p : Plant}
    (hs : p.switchboard.Sound) :
    p.switchboard.Sends (entries.foldl (fun p e => trigger p e.1 e.2) p).switchboard [] := by
  induction entries generalizing p with
  | nil => exact .refl _
  | cons e rest ih =>
    have hfirst : p.switchboard.Sends (trigger p e.1 e.2).switchboard [] :=
      Plant.sends_command hs _ (List.forall_mem_nil _) (.inl rfl) _
    exact hfirst.trans (ih ((Plant.calls_command hs ..).sound hs))

theorem sends_receive_of_none (hs : h.plant.switchboard.Sound) {id : Nat} {c : Connection}
    (hc : h.plant.switchboard.connection? id = some c) (hopen : c.isOpen = true) (now : Timestamp)
    {text : String} (hr : Request.ofText? text = none) :
    h.plant.switchboard.Sends (h.receive now id text).plant.switchboard [] := by
  cases dispatch_receive hs hc hopen now text with
  | dropped e unread same =>
    rw [switchboard_eq_of_quiet same]
    exact .refl _
  | settled uniqueId read same =>
    have hconnections := congrArg (fun h : Hub => h.plant.switchboard.connections) same
    have honline := congrArg (fun h : Hub => h.plant.switchboard.online) same
    exact .of_connections hconnections honline
  | refused uniqueId action payload e read invalid same =>
    have hsame := congrArg (fun h : Hub => h.plant.switchboard) same
    have hsent := Switchboard.sends_answered hs hc
      (Frame.legible_refusal uniqueId (Request.refusalCode action) e.message) rfl
    exact hsame ▸ hsent
  | answered uniqueId action payload r result read valid =>
    have hsome := Request.ofText?_eq_some_iff.2 ⟨uniqueId, action, payload, read, valid⟩
    rw [hr] at hsome
    cases hsome

namespace Running

variable (hr : h.Running tiers)
include hr

theorem sends_followUp (now : Timestamp) (station : String) (r : Request)
    (hreach : r.sharesPower = true → ∀ s, h.plant.ledger.database.isSmart s = true →
      h.plant.switchboard.reaches s = true) :
    h.plant.switchboard.Sends (h.followUp now station r).plant.switchboard
      (if r.sharesPower then Plant.deliveries tiers now h.plant.ledger station else []) := by
  cases hshares : r.sharesPower with
  | true =>
    obtain ⟨result, q, hq, hsent⟩ :=
      Plant.sends_checkPowerLimit hr.sound hr.whole hr.keyed (hreach hshares) tiers now station
    rw [followUp_of_sharesPower hr.sharing hshares hq]
    exact hsent
  | false =>
    obtain ⟨p, hp, hsent⟩ := Plant.sends_applyDefault hr.sound hr.whole now station
    rcases followUp_of_not_sharesPower hr.sharing hshares hp with he | he
    · rw [he]
      exact hsent
    · rw [he]
      exact .refl _

theorem sends_balance (now : Timestamp) (station : String)
    (hreach : ∀ s, h.plant.ledger.database.isSmart s = true →
      h.plant.switchboard.reaches s = true) :
    h.plant.switchboard.Sends (h.balance now station).plant.switchboard
      (Plant.deliveries tiers now h.plant.ledger station) := by
  obtain ⟨result, q, hq, hsent⟩ :=
    Plant.sends_checkPowerLimit hr.sound hr.whole hr.keyed hreach tiers now station
  simpa only [balance, hr.sharing, hq] using hsent

theorem sends_receive {id : Nat} (hopen : ∀ c, h.plant.switchboard.connection? id = some c →
    c.isOpen = true) (now : Timestamp) (text : String)
    (hreach : (h.sharer? (.receive now id text)).isSome = true →
      ∀ s, h.plant.ledger.database.isSmart s = true → h.plant.switchboard.reaches s = true) :
    h.plant.switchboard.Sends (h.receive now id text).plant.switchboard
      (h.deliveries tiers (.receive now id text)) := by
  rw [sharer?] at hreach
  rw [deliveries, sharer?, answered]
  cases hc : h.plant.switchboard.connection? id with
  | none =>
    rw [receive, hc]
    exact .refl _
  | some c =>
    cases htext : Request.ofText? text with
    | none => exact sends_receive_of_none hr.sound hc (hopen c hc) now htext
    | some r =>
      obtain ⟨uniqueId, he⟩ := receive_of_request hr.sound hc (hopen c hc) now htext
      obtain ⟨hanswered, hsame⟩ := hr.answering hc now r uniqueId
      have hanswer := Switchboard.sends_answered hr.sound hc
        ((h.handle now c.station r).1.legible_frame uniqueId) rfl
      simp only [hc, htext] at hreach
      have hsent := hanswered.sends_followUp now c.station r fun hshares s hsmart =>
        (hanswer.reaches_eq s).trans
          (hreach (by rw [if_pos hshares]; rfl) s ((hsame.smart s).symm.trans hsmart))
      have hboth := hanswer.trans hsent
      rw [he]
      dsimp only
      cases hshares : r.sharesPower with
      | true =>
        rw [hshares] at hboth
        exact hboth
      | false =>
        rw [hshares] at hboth
        exact hboth

theorem sends_step {i : HubStep} (hi : h.delivers i = true)
    (hwires : i.rewires = false)
    (hreach : (h.sharer? i).isSome = true → ∀ s, h.plant.ledger.database.isSmart s = true →
      h.plant.switchboard.reaches s = true) :
    h.plant.switchboard.Sends (h.step i).plant.switchboard (h.deliveries tiers i) := by
  cases i with
  | connect | disconnect | hangUp | closeAll | flush => cases hwires
  | receive now id text =>
    refine hr.sends_receive (fun c hc => ?_) now text hreach
    simpa [delivers, hc] using hi
  | handler now w =>
    cases w with
    | answer station r => cases hi
    | followUp station r =>
      rw [sharer?] at hreach
      have hsent := hr.sends_followUp now station r fun hshares =>
        hreach (by rw [if_pos hshares]; rfl)
      rw [deliveries, sharer?]
      cases hshares : r.sharesPower with
      | true =>
        rw [hshares] at hsent
        exact hsent
      | false =>
        rw [hshares] at hsent
        exact hsent
    | balance station => exact hr.sends_balance now station (hreach rfl)
  | applyDefault now station =>
    obtain ⟨q, hq, hsent⟩ := Plant.sends_applyDefault hr.sound hr.whole now station
    rw [Hub.step, hq]
    exact hsent
  | remoteStart station idTag connector =>
    rw [Hub.step, remoteStart]
    split
    · exact .refl _
    · cases hsent : h.plant.switchboard.request station
        (.remoteStartTransaction { connectorId := connector, idTag, chargingProfile := none }) with
      | error e => exact .refl _
      | ok sent =>
        refine Switchboard.sends_of_request hr.sound ?_ hsent
        simp [Command.decimals, Command.RemoteStartTransaction.schema, Shape.decimals,
          Fields.decimals]
  | remoteStop station transaction =>
    rw [Hub.step, remoteStop]
    cases hsent : h.plant.switchboard.request station
      (.remoteStopTransaction { transactionId := transaction }) with
    | error e => exact .refl _
    | ok sent => exact Switchboard.sends_of_request hr.sound (List.forall_mem_nil _) hsent
  | tick => exact sends_foldl_trigger h.watch.entries hr.sound
  | drain => exact .refl _
  | records ledger => cases hi

end Running

end Hub

end CentralSystem
