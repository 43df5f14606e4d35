import CentralSystem.Proofs.Answering
import CentralSystem.Proofs.Ledger.Bounds

namespace CentralSystem

namespace Plant

variable {l : Ledger} {p q : Plant}

theorem bounded_setLimit (h : l.Bounded) (station : String) {c : Connector} (hc : c.Bounded)
    (limit : Int32) : (setLimit l station c limit).Bounded := by
  have hset := h.setRegistry (h.registry.setConnector station (hc.relink c.transaction limit))
  have hrecord : Connector.Bounded
      { (l.database.connector? station c.id).getD { id := c.id } with limit } := by
    cases hr : l.database.connector? station c.id with
    | none => exact (Connector.bounded_new hc.id).relink _ limit
    | some c' => exact (h.database.connectorsOf station _ _ hr).relink c'.transaction limit
  exact hset.writeAlways (h.database.putConnector station hrecord)

theorem bounded_assign (h : l.Bounded) {as : List Assignment} (has : ∀ a ∈ as, a.1.2.Bounded) :
    (assign l as).Bounded := by
  induction as generalizing l with
  | nil => exact h
  | cons a rest ih =>
    exact ih (bounded_setLimit h a.1.1 (has a List.mem_cons_self) a.2)
      fun a' ha' => has a' (List.mem_cons_of_mem _ ha')

theorem bounded_of_quiet {l' : Ledger} (hq : l'.quiet = l.quiet) (h : l.Bounded) : l'.Bounded := by
  have hkept : l.quiet.Bounded := ⟨h.registry, h.database⟩
  rw [← hq] at hkept
  exact ⟨hkept.registry, hkept.database⟩

theorem bounded_shareOut (h : p.ledger.Bounded) (tiers : PowerTiers) (now : Timestamp)
    (location : Location) {cs : List (String × Connector)} (hcs : ∀ e ∈ cs, e.2.Bounded) :
    (p.shareOut tiers now location cs).2.ledger.Bounded :=
  bounded_of_quiet (quiet_shareOut tiers now location cs)
    (bounded_assign h fun _ ha => hcs _ (mem_of_mem_assignments ha).1)

theorem quiet_of_locationOf {station : String} {location : Option Location}
    (hq : p.locationOf station = .ok (location, q)) : q.ledger.quiet = p.ledger.quiet := by
  unfold locationOf at hq
  obtain ⟨cp, -, hq⟩ := bind_eq_ok.1 hq
  split at hq
  · obtain ⟨rfl, rfl⟩ := Prod.mk.inj (Except.ok.inj hq)
    rfl
  · obtain ⟨found, -, hq⟩ := bind_eq_ok.1 hq
    split at hq <;> obtain ⟨rfl, rfl⟩ := Prod.mk.inj (Except.ok.inj hq) <;> rfl

theorem bounded_of_connectors (h : p.ledger.Bounded) {members : List String}
    {cs : List (String × Connector)} (hcs : p.connectors members = .ok cs) :
    ∀ e ∈ cs, e.2.Bounded := by
  obtain ⟨smart, -, hcs⟩ := bind_eq_ok.1 hcs
  obtain rfl := Except.ok.inj hcs
  intro e he
  obtain ⟨id, -, he⟩ := List.mem_flatMap.1 he
  obtain ⟨c, hc, rfl⟩ := List.mem_map.1 he
  cases hs : p.ledger.registry.stations.get? id with
  | none => simp [hs] at hc
  | some s =>
    rw [hs] at hc
    exact (h.registry.stations id s hs).connectors.of_mem_values hc

theorem bounded_checkPowerLimit (h : p.ledger.Bounded) {tiers : PowerTiers} {now : Timestamp}
    {station : String} {result : Option (List Grant)}
    (hq : p.checkPowerLimit tiers now station = .ok (result, q)) : q.ledger.Bounded := by
  unfold checkPowerLimit at hq
  obtain ⟨⟨location, p'⟩, hp', hq⟩ := bind_eq_ok.1 hq
  have hfound := bounded_of_quiet (quiet_of_locationOf hp') h
  cases location with
  | none =>
    obtain ⟨rfl, rfl⟩ := Prod.mk.inj (Except.ok.inj hq)
    exact hfound
  | some location =>
    obtain ⟨members, -, hq⟩ := bind_eq_ok.1 hq
    obtain ⟨connectors, hconnectors, hq⟩ := bind_eq_ok.1 hq
    have hshared := bounded_shareOut hfound tiers now location
      (bounded_of_connectors hfound hconnectors)
    rw [Except.ok.inj hq] at hshared
    exact hshared

theorem bounded_applyDefault (h : p.ledger.Bounded) {now : Timestamp} {station : String}
    (hq : p.applyDefault now station = .ok q) : q.ledger.Bounded := by
  unfold applyDefault at hq
  obtain ⟨⟨location, p'⟩, hp', hq⟩ := bind_eq_ok.1 hq
  have hfound := bounded_of_quiet (quiet_of_locationOf hp') h
  cases location with
  | none =>
    obtain rfl := Except.ok.inj hq
    exact hfound
  | some location =>
    obtain rfl := Except.ok.inj hq
    exact bounded_of_quiet (quiet_command ..) hfound

end Plant

/-- Whether a step puts nothing out of bounds on record by itself. Whatever text comes in is
none that does: only requests that nobody read and books from elsewhere can. -/
def HubStep.Bounded : HubStep → Prop
  | .handler _ (.answer _ r) => r.check = .ok ()
  | .records l => l.Bounded
  | _ => True

namespace Hub

variable {h : Hub} (hb : h.plant.ledger.Bounded)
include hb

theorem bounded_followUp (now : Timestamp) (station : String) (r : Request) :
    (h.followUp now station r).plant.ledger.Bounded := by
  unfold followUp
  split
  · exact hb
  · next tiers _ =>
    have hcheck (plant : Plant)
        (hp : (h.plant.checkPowerLimit tiers now station).map (·.2) = .ok plant) :
        plant.ledger.Bounded := by
      obtain ⟨_, hq, rfl⟩ := map_eq_ok_iff.1 hp
      exact Plant.bounded_checkPowerLimit hb hq
    dsimp only
    split
    · next plant hresult =>
      split at hresult
      · split at hresult
        · exact Plant.bounded_applyDefault hb hresult
        · exact Except.ok.inj hresult ▸ hb
      · exact hcheck plant hresult
      · exact hcheck plant hresult
      · exact hcheck plant hresult
      · exact Except.ok.inj hresult ▸ hb
    · exact hb.note _

theorem bounded_balance (now : Timestamp) (station : String) :
    (h.balance now station).plant.ledger.Bounded := by
  unfold balance
  split
  · exact hb
  · split
    · next hq => exact Plant.bounded_checkPowerLimit hb hq
    · exact hb

theorem bounded_tick : h.tick.plant.ledger.Bounded := by
  have hfold (entries : List (Int32 × Watched)) {p : Plant} (hp : p.ledger.Bounded) :
      (entries.foldl (fun p e => trigger p e.1 e.2) p).ledger.Bounded := by
    induction entries generalizing p with
    | nil => exact hp
    | cons e rest ih => exact ih (Plant.bounded_of_quiet (Plant.quiet_command ..) hp)
  exact hfold h.watch.entries hb

theorem bounded_refuse (id : Nat) (station : String) (e : Error) :
    (h.refuse id station e).plant.ledger.Bounded := by
  unfold refuse
  split
  · exact hb
  · exact hb.note _

theorem bounded_receiveCall (now : Timestamp) (id : Nat) (station action : String)
    (payload : Json) : (h.receiveCall now id station action payload).plant.ledger.Bounded := by
  unfold receiveCall
  cases hr : Request.decode action payload with
  | error e => exact bounded_refuse (h := h.note _) (hb.note _) id station e
  | ok r =>
    have hanswered : (h.handle now station r).2.plant.ledger.Bounded :=
      Ledger.bounded_answer now station hb (Request.check_of_decode hr)
    dsimp only
    split
    · next s _ =>
      exact bounded_followUp (h := (h.handle now station r).2.setSwitchboard s) hanswered now
        station r
    · exact hanswered.note _

theorem bounded_receive (now : Timestamp) (id : Nat) (text : String) :
    (h.receive now id text).plant.ledger.Bounded := by
  unfold receive
  split
  · exact hb
  · next c _ =>
    split
    · exact hb.note _
    · next f _ =>
      cases f with
      | call uniqueId action payload =>
        exact bounded_receiveCall (h := h.setSwitchboard (h.plant.switchboard.noteCall id uniqueId))
          hb now id c.station action payload
      | callResult uniqueId payload =>
        rw [receiveFrame]
        split
        · exact hb.note _
        · exact hb
      | callError uniqueId code description details => exact hb.note _

theorem bounded_step {i : HubStep} (hi : i.Bounded) : (h.step i).plant.ledger.Bounded := by
  cases i with
  | connect | disconnect | hangUp | closeAll | flush => exact hb
  | drain => exact ⟨hb.registry, hb.database⟩
  | receive now id text => exact bounded_receive hb now id text
  | handler now w =>
    cases w with
    | answer station r => exact Ledger.bounded_answer now station hb hi
    | followUp station r => exact bounded_followUp hb now station r
    | balance station => exact bounded_balance hb now station
  | applyDefault now station =>
    rw [step]
    cases hp : h.plant.applyDefault now station with
    | error e => exact hb
    | ok p => exact Plant.bounded_applyDefault hb hp
  | remoteStart station idTag connector =>
    rw [step, remoteStart]
    split
    · exact hb
    · cases h.plant.switchboard.request station
        (.remoteStartTransaction { connectorId := connector, idTag, chargingProfile := none }) <;>
        exact hb
  | remoteStop station transaction =>
    rw [step, remoteStop]
    cases h.plant.switchboard.request station
      (.remoteStopTransaction { transactionId := transaction }) <;> exact hb
  | tick => exact bounded_tick hb
  | records l => exact hi

end Hub

/-- Over a run that starts from a database within the bounds, what is in memory and what is on
record stay within them, whatever texts come in over whatever connections, and whether or not the
storage takes what is written. -/
theorem bounded_runSteps {settings : Settings} {storage : Storage} {seed : Nat} {h₀ : Hub}
    (hb : storage.database.Bounded) (hstart : Hub.start settings storage seed = .ok h₀)
    (is : List HubStep) (hi : ∀ i ∈ is, i.Bounded) : (h₀.runSteps is).plant.ledger.Bounded := by
  have hrun {h : Hub} (hh : h.plant.ledger.Bounded) : (h.runSteps is).plant.ledger.Bounded := by
    induction is generalizing h with
    | nil => exact hh
    | cons i rest ih =>
      exact ih (fun i' hi' => hi i' (List.mem_cons_of_mem _ hi'))
        (Hub.bounded_step hh (hi i List.mem_cons_self))
  obtain ⟨ledger, hload, hh⟩ := bind_eq_ok.1 hstart
  obtain rfl := Except.ok.inj hh
  exact hrun (Ledger.bounded_load hb hload)

theorem bounded_runSteps_depot : Database.depot.Bounded ∧
      Hub.start Hub.depot.settings { database := .depot } 0 = .ok .idleDepot ∧
      (∀ i ∈ HubStep.arrivals ++ HubStep.depot, i.Bounded) ∧
      (Hub.idleDepot.runSteps (HubStep.arrivals ++ HubStep.depot)).plant.ledger.Bounded := by
  have hb : Database.depot.Bounded := by decide +kernel
  have hi : ∀ i ∈ HubStep.arrivals ++ HubStep.depot, i.Bounded := by
    simp [HubStep.arrivals, HubStep.depot, HubStep.Bounded]
  exact ⟨hb, Hub.start_depot, hi, bounded_runSteps hb Hub.start_depot _ hi⟩

end CentralSystem
