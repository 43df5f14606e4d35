import CentralSystem.Hub
import CentralSystem.Proofs.Message.Call
import CentralSystem.Proofs.Run

namespace CentralSystem

def IsCall (text : String) : Prop :=
  ∃ uniqueId action payload, Frame.parse text = .ok (.call uniqueId action payload)

theorem isCall_encode (c : Command) (uniqueId : String) : IsCall (c.encode uniqueId) :=
  ⟨_, _, _, Frame.parse_render (c.legible_frame uniqueId)⟩

def Connection.queue (c : Connection) (texts : List String) : Connection :=
  { c with outbox := c.outbox ++ texts }

namespace Switchboard

structure Sound (s : Switchboard) : Prop where
  id : ∀ {id c}, s.connection? id = some c → c.id = id
  fresh : ∀ {id c}, s.connection? id = some c → id < s.nextConnection

/-- Nothing but Calls was queued in between, and connections are the same otherwise. -/
structure Calls (s s' : Switchboard) : Prop where
  connection : ∀ id, ∃ texts, (∀ t ∈ texts, IsCall t) ∧
    s'.connection? id = (s.connection? id).map (·.queue texts)
  nextConnection : s'.nextConnection = s.nextConnection

/-- What is queued on a connection and not yet written, oldest first. -/
def outbox (s : Switchboard) (id : Nat) : List String := (s.connection? id).elim [] (·.outbox)

variable {s s' s'' : Switchboard}

theorem outbox_of_connection {id : Nat} {f : Connection → Connection}
    (h : s'.connection? id = (s.connection? id).map f) :
    s'.outbox id = (s.connection? id).elim [] fun c => (f c).outbox := by
  rw [outbox, h, Option.elim_map]
  rfl

theorem Sound.of_connection (hs : s.Sound) {f : Nat → Connection → Connection}
    (h : ∀ id, s'.connection? id = (s.connection? id).map (f id)) (hf : ∀ id c, (f id c).id = c.id)
    (hn : s'.nextConnection = s.nextConnection) : s'.Sound where
  id {id c'} hc' := by
    obtain ⟨c, hc, rfl⟩ := Option.map_eq_some_iff.1 (h id ▸ hc')
    exact (hf id c).trans (hs.id hc)
  fresh {id c'} hc' := by
    obtain ⟨c, hc, rfl⟩ := Option.map_eq_some_iff.1 (h id ▸ hc')
    exact hn ▸ hs.fresh hc

namespace Calls

theorem of_connection (h : ∀ id, s'.connection? id = s.connection? id)
    (hn : s'.nextConnection = s.nextConnection) : s.Calls s' where
  connection id := ⟨[], by simp, by simp [h, Connection.queue]⟩
  nextConnection := hn

theorem refl (s : Switchboard) : s.Calls s := of_connection (fun _ => rfl) rfl

theorem trans (h : s.Calls s') (h' : s'.Calls s'') : s.Calls s'' where
  connection id := by
    obtain ⟨texts, ht, he⟩ := h.connection id
    obtain ⟨texts', ht', he'⟩ := h'.connection id
    refine ⟨texts ++ texts', List.forall_mem_append.2 ⟨ht, ht'⟩, ?_⟩
    rw [he', he, Option.map_map]
    congr 1
    funext c
    simp [Connection.queue]
  nextConnection := h'.nextConnection.trans h.nextConnection

theorem sound (h : s.Calls s') (hs : s.Sound) : s'.Sound := by
  choose texts _ he using h.connection
  exact hs.of_connection he (fun _ _ => rfl) h.nextConnection

end Calls

theorem connection?_of_send (hs : s.Sound) {c : Connection} {text : String}
    (h : s.send c text = .ok s') (id : Nat) :
    s'.connection? id = (s.connection? id).map (·.queue (if id = c.id then [text] else [])) := by
  unfold send at h
  split at h
  · next d hd =>
    split at h
    · obtain rfl := Except.ok.inj h
      have hid : d.id = c.id := hs.id hd
      rw [connection?, Table.get?_insert]
      split
      · next he =>
        obtain rfl := he.trans hid
        rw [if_pos rfl, hd]
        rfl
      · next he =>
        rw [if_neg fun h => he (h.trans hid.symm)]
        simp [Connection.queue, connection?]
    · cases h
  · cases h

theorem eq_of_send {c : Connection} {text : String} (h : s.send c text = .ok s') :
    ∃ connections, s' = { s with connections } := by
  unfold send at h
  split at h
  · split at h
    · exact ⟨_, (Except.ok.inj h).symm⟩
    · cases h
  · cases h

theorem calls_of_request (hs : s.Sound) {station id : String} {command : Command}
    (h : s.request station command = .ok (id, s')) : s.Calls s' := by
  unfold request at h
  split at h
  · cases h
  · obtain ⟨sent, hsent, h⟩ := bind_eq_ok.1 h
    obtain ⟨rfl, rfl⟩ := Prod.mk.inj (Except.ok.inj h)
    have hn : sent.nextConnection = s.nextConnection := by
      obtain ⟨connections, rfl⟩ := eq_of_send hsent
      rfl
    refine ⟨fun i => ⟨_, ?_, connection?_of_send hs hsent i⟩, hn⟩
    intro t ht
    split at ht
    · exact List.mem_singleton.1 ht ▸ isCall_encode ..
    · cases ht

end Switchboard

namespace Plant

variable {p p' : Plant}

theorem calls_command (hs : p.switchboard.Sound) (station : String) (c : Command)
    (failed : Error → Notice) :
    p.switchboard.Calls (p.command station c failed).switchboard := by
  unfold command
  split
  · next h => exact Switchboard.calls_of_request hs h
  · exact .refl _

theorem calls_sendGrant (hs : p.switchboard.Sound) (now : Timestamp) (g : Grant) :
    p.switchboard.Calls (sendGrant now p g).switchboard := by
  unfold sendGrant
  split
  · exact calls_command hs ..
  · exact .refl _

theorem calls_foldl {α : Type} {f : Plant → α → Plant} (l : List α)
    (hf : ∀ (p : Plant) a, p.switchboard.Sound → p.switchboard.Calls (f p a).switchboard) {p : Plant}
    (hs : p.switchboard.Sound) : p.switchboard.Calls (l.foldl f p).switchboard := by
  induction l generalizing p with
  | nil => exact .refl _
  | cons a rest ih => exact (hf p a hs).trans (ih ((hf p a hs).sound hs))

theorem switchboard_checkTotal (location : Location) (sum : Int32) :
    (p.checkTotal location sum).switchboard = p.switchboard := by
  unfold checkTotal
  split <;> rfl

theorem calls_shareOut (hs : p.switchboard.Sound) (tiers : PowerTiers) (now : Timestamp)
    (location : Location) (cs : List (String × Connector)) :
    p.switchboard.Calls (p.shareOut tiers now location cs).2.switchboard := by
  rw [shareOut_eq, announce]
  split
  · exact .refl _
  · next sum _ =>
    generalize hq : Plant.checkTotal { p with ledger := assign p.ledger (assignments tiers cs) }
      location sum = q
    have hsame : q.switchboard = p.switchboard := hq ▸ switchboard_checkTotal ..
    have hcalls := calls_foldl ((granted tiers cs).map Assignment.grant)
      (fun _ g hs => calls_sendGrant hs now g) (hsame ▸ hs)
    rwa [hsame] at hcalls

theorem switchboard_of_locationOf {station : String} {location : Option Location}
    (h : p.locationOf station = .ok (location, p')) : p'.switchboard = p.switchboard := by
  unfold locationOf at h
  obtain ⟨cp, -, h⟩ := bind_eq_ok.1 h
  split at h
  · obtain ⟨rfl, rfl⟩ := Prod.mk.inj (Except.ok.inj h)
    rfl
  · obtain ⟨found, -, h⟩ := bind_eq_ok.1 h
    split at h <;> obtain ⟨rfl, rfl⟩ := Prod.mk.inj (Except.ok.inj h) <;> rfl

theorem calls_checkPowerLimit (hs : p.switchboard.Sound) {tiers : PowerTiers} {now : Timestamp}
    {station : String} {result : Option (List Grant)}
    (h : p.checkPowerLimit tiers now station = .ok (result, p')) :
    p.switchboard.Calls p'.switchboard := by
  unfold checkPowerLimit at h
  obtain ⟨⟨location, q⟩, hq, h⟩ := bind_eq_ok.1 h
  have hsame := switchboard_of_locationOf hq
  cases location with
  | none =>
    obtain ⟨rfl, rfl⟩ := Prod.mk.inj (Except.ok.inj h)
    exact hsame ▸ .refl _
  | some location =>
    obtain ⟨members, -, h⟩ := bind_eq_ok.1 h
    obtain ⟨connectors, -, h⟩ := bind_eq_ok.1 h
    have hshare := calls_shareOut (p := q) (hsame ▸ hs) tiers now location connectors
    rw [Except.ok.inj h, hsame] at hshare
    exact hshare

theorem calls_applyDefault (hs : p.switchboard.Sound) {now : Timestamp} {station : String}
    (h : p.applyDefault now station = .ok p') : p.switchboard.Calls p'.switchboard := by
  unfold applyDefault at h
  obtain ⟨⟨location, q⟩, hq, h⟩ := bind_eq_ok.1 h
  have hsame := switchboard_of_locationOf hq
  cases location with
  | none =>
    obtain rfl := Except.ok.inj h
    exact hsame ▸ .refl _
  | some location =>
    obtain rfl := Except.ok.inj h
    have hcalls := calls_command (p := q) (hsame ▸ hs) station (location.defaultProfile now)
      (.defaultProfileNotSent station)
    rwa [hsame] at hcalls

end Plant

namespace Hub

variable {h h' : Hub} (hs : h.plant.switchboard.Sound)
include hs

theorem calls_followUp (now : Timestamp) (station : String) (r : Request) :
    h.plant.switchboard.Calls (h.followUp now station r).plant.switchboard := by
  have hboot (plant : Plant) (hb : (if h.plant.ledger.registry.knows station then
      h.plant.applyDefault now station else .ok h.plant) = .ok plant) :
      h.plant.switchboard.Calls plant.switchboard := by
    split at hb
    · exact Plant.calls_applyDefault hs hb
    · exact Except.ok.inj hb ▸ .refl _
  have hcheck (tiers : PowerTiers) (plant : Plant)
      (hc : (h.plant.checkPowerLimit tiers now station).map (·.2) = .ok plant) :
      h.plant.switchboard.Calls plant.switchboard := by
    obtain ⟨⟨grants, q⟩, hq, rfl⟩ := map_eq_ok_iff.1 hc
    exact Plant.calls_checkPowerLimit hs hq
  unfold followUp
  split
  · exact .refl _
  · next tiers _ =>
    dsimp only
    split
    · next plant hresult =>
      split at hresult
      · exact hboot plant hresult
      · exact hcheck tiers plant hresult
      · exact hcheck tiers plant hresult
      · exact hcheck tiers plant hresult
      · exact Except.ok.inj hresult ▸ .refl _
    · exact .refl _

theorem calls_balance (now : Timestamp) (station : String) :
    h.plant.switchboard.Calls (h.balance now station).plant.switchboard := by
  unfold balance
  split
  · exact .refl _
  · split
    · next hq => exact Plant.calls_checkPowerLimit hs hq
    · exact .refl _

theorem calls_handlerStep (now : Timestamp) (w : HandlerStep) :
    h.plant.switchboard.Calls (h.handlerStep now w).2.plant.switchboard := by
  cases w with
  | answer station r => exact .refl _
  | followUp station r => exact calls_followUp hs now station r
  | balance station => exact calls_balance hs now station

theorem calls_tick : h.plant.switchboard.Calls h.tick.plant.switchboard :=
  Plant.calls_foldl h.watch.entries (fun _ _ hs => Plant.calls_command hs ..) hs

theorem calls_remoteStart {station idTag id : String} {connector : Option UInt32}
    (hr : h.remoteStart station idTag connector = .ok (id, h')) :
    h.plant.switchboard.Calls h'.plant.switchboard := by
  unfold remoteStart at hr
  split at hr
  · cases hr
  · obtain ⟨⟨_, s⟩, hsent, hr⟩ := bind_eq_ok.1 hr
    obtain ⟨rfl, rfl⟩ := Prod.mk.inj (Except.ok.inj hr)
    exact Switchboard.calls_of_request hs hsent

theorem calls_remoteStop {station id : String} {transaction : Int32}
    (hr : h.remoteStop station transaction = .ok (id, h')) :
    h.plant.switchboard.Calls h'.plant.switchboard := by
  unfold remoteStop at hr
  obtain ⟨⟨_, s⟩, hsent, hr⟩ := bind_eq_ok.1 hr
  obtain ⟨rfl, rfl⟩ := Prod.mk.inj (Except.ok.inj hr)
  exact Switchboard.calls_of_request hs hsent

end Hub

end CentralSystem
