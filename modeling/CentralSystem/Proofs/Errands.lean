import CentralSystem.Proofs.Outbox

namespace CentralSystem

/-- A command, and the charge point that it is for. -/
abbrev Errand := String × Command

def Grant.errand? (now : Timestamp) (g : Grant) : Option Errand :=
  (g.command now).toOption.map (g.chargePoint, ·)

def Watched.errand (w : Watched) : Errand :=
  (w.chargePoint,
    .triggerMessage { requestedMessage := .meterValues, connectorId := some w.connector })

inductive Errand.Charging (now : Timestamp) : Errand → Prop
  | grant (g : Grant) (e : Errand) (h : g.errand? now = some e) : Charging now e
  | default (station : String) (location : Location) :
    Charging now (station, location.defaultProfile now)

namespace Switchboard

variable {s s' : Switchboard}

def give (s : Switchboard) (e : Errand) : Switchboard :=
  (s.request e.1 e.2).toOption.elim s (·.2)

def giveAll (s : Switchboard) (es : List Errand) : Switchboard := es.foldl give s

theorem giveAll_append (es es' : List Errand) :
    s.giveAll (es ++ es') = (s.giveAll es).giveAll es' := List.foldl_append

theorem give_of_request {e : Errand} {id : String} (h : s.request e.1 e.2 = .ok (id, s')) :
    s.give e = s' := by
  rw [give, h]
  rfl

end Switchboard

namespace Plant

variable {p p' : Plant}

theorem switchboard_command (station : String) (c : Command) (failed : Error → Notice) :
    (p.command station c failed).switchboard = p.switchboard.give (station, c) := by
  rw [command, Switchboard.give]
  cases p.switchboard.request station c <;> rfl

theorem switchboard_sendGrant (now : Timestamp) (g : Grant) :
    (sendGrant now p g).switchboard = p.switchboard.giveAll (g.errand? now).toList := by
  rw [sendGrant, Grant.errand?]
  cases g.command now with
  | ok c => exact switchboard_command ..
  | error e => rfl

theorem switchboard_foldl_sendGrant (now : Timestamp) (grants : List Grant) :
    (grants.foldl (sendGrant now) p).switchboard =
      p.switchboard.giveAll (grants.filterMap (·.errand? now)) := by
  induction grants generalizing p with
  | nil => rfl
  | cons g rest ih =>
    rw [List.foldl_cons, ih, switchboard_sendGrant, ← Switchboard.giveAll_append]
    congr 1
    cases h : g.errand? now <;> simp [h]

theorem switchboard_shareOut (tiers : PowerTiers) (now : Timestamp) (location : Location)
    (cs : List (String × Connector)) :
    (p.shareOut tiers now location cs).2.switchboard =
      p.switchboard.giveAll
        (((p.shareOut tiers now location cs).1.getD []).filterMap (·.errand? now)) := by
  rw [shareOut_eq, announce]
  split
  · rfl
  · exact (switchboard_foldl_sendGrant ..).trans
      (congrArg (Switchboard.giveAll · _) (switchboard_checkTotal ..))

theorem switchboard_checkPowerLimit {tiers : PowerTiers} {now : Timestamp} {station : String}
    {result : Option (List Grant)}
    (h : p.checkPowerLimit tiers now station = .ok (result, p')) :
    p'.switchboard = p.switchboard.giveAll ((result.getD []).filterMap (·.errand? now)) := by
  unfold checkPowerLimit at h
  obtain ⟨⟨location, q⟩, hq, h⟩ := bind_eq_ok.1 h
  have hsame := switchboard_of_locationOf hq
  cases location with
  | none =>
    obtain ⟨rfl, rfl⟩ := Prod.mk.inj (Except.ok.inj h)
    exact hsame
  | some location =>
    obtain ⟨members, -, h⟩ := bind_eq_ok.1 h
    obtain ⟨connectors, -, h⟩ := bind_eq_ok.1 h
    have hshare := q.switchboard_shareOut tiers now location connectors
    rw [Except.ok.inj h, hsame] at hshare
    exact hshare

theorem switchboard_applyDefault {now : Timestamp} {station : String}
    (h : p.applyDefault now station = .ok p') : ∃ location : Option Location,
      p'.switchboard = p.switchboard.giveAll
        (location.toList.map fun l => (station, l.defaultProfile now)) := by
  unfold applyDefault at h
  obtain ⟨⟨location, q⟩, hq, h⟩ := bind_eq_ok.1 h
  have hsame := switchboard_of_locationOf hq
  refine ⟨location, ?_⟩
  cases location with
  | none =>
    obtain rfl := Except.ok.inj h
    exact hsame
  | some location =>
    obtain rfl := Except.ok.inj h
    rw [switchboard_command, hsame]
    rfl

end Plant

namespace Hub

variable {h : Hub}

/-- A hub comes out of an errand of charging. -/
def Charges (now : Timestamp) (h h' : Hub) : Prop :=
  ∃ es, (∀ e ∈ es, Errand.Charging now e) ∧
    h'.plant.switchboard = h.plant.switchboard.giveAll es

namespace Charges

variable {now : Timestamp} {station : String}

theorem of_eq {h' : Hub} (he : h'.plant.switchboard = h.plant.switchboard) : Charges now h h' :=
  ⟨[], List.forall_mem_nil _, he⟩

theorem checkPowerLimit {tiers : PowerTiers} {result : Option (List Grant)} {p : Plant}
    (hp : h.plant.checkPowerLimit tiers now station = .ok (result, p)) :
    Charges now h { h with plant := p } := by
  refine ⟨_, fun e he => ?_, Plant.switchboard_checkPowerLimit hp⟩
  obtain ⟨g, -, hg⟩ := List.mem_filterMap.1 he
  exact .grant g e hg

theorem applyDefault {p : Plant} (hp : h.plant.applyDefault now station = .ok p) :
    Charges now h { h with plant := p } := by
  obtain ⟨location, he⟩ := Plant.switchboard_applyDefault hp
  refine ⟨_, fun e he => ?_, he⟩
  obtain ⟨l, -, rfl⟩ := List.mem_map.1 he
  exact .default station l

end Charges

theorem charges_followUp (now : Timestamp) (station : String) (r : Request) :
    Charges now h (h.followUp now station r) := by
  have hcheck (tiers : PowerTiers) (p : Plant)
      (hp : (h.plant.checkPowerLimit tiers now station).map (·.2) = .ok p) :
      Charges now h { h with plant := p } := by
    obtain ⟨⟨result, q⟩, hq, rfl⟩ := map_eq_ok_iff.1 hp
    exact .checkPowerLimit hq
  unfold followUp
  split
  · exact .of_eq rfl
  · next tiers _ =>
    dsimp only
    split
    · next p hp =>
      split at hp
      · split at hp
        · exact .applyDefault hp
        · exact .of_eq (congrArg Plant.switchboard (Except.ok.inj hp).symm)
      · exact hcheck tiers p hp
      · exact hcheck tiers p hp
      · exact hcheck tiers p hp
      · exact .of_eq (congrArg Plant.switchboard (Except.ok.inj hp).symm)
    · exact .of_eq rfl

theorem charges_balance (now : Timestamp) (station : String) :
    Charges now h (h.balance now station) := by
  unfold balance
  split
  · exact .of_eq rfl
  · split
    · next hq => exact .checkPowerLimit hq
    · exact .of_eq rfl

theorem charges_handlerStep (now : Timestamp) (w : HandlerStep) :
    Charges now h (h.handlerStep now w).2 := by
  cases w with
  | answer station r => exact .of_eq rfl
  | followUp station r => exact charges_followUp now station r
  | balance station => exact charges_balance now station

theorem switchboard_foldl_trigger (entries : List (Int32 × Watched)) {p : Plant} :
    (entries.foldl (fun p e => trigger p e.1 e.2) p).switchboard =
      p.switchboard.giveAll (entries.map (·.2.errand)) := by
  induction entries generalizing p with
  | nil => rfl
  | cons e rest ih =>
    rw [List.foldl_cons, ih, trigger, Plant.switchboard_command]
    rfl

end Hub

end CentralSystem
