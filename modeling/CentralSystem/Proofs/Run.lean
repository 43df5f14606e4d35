import CentralSystem.Hub
import CentralSystem.Proofs.Ledger.Load
import CentralSystem.Proofs.Plant

namespace CentralSystem

/-- A step of the handlers. What follows an answer can come any time later, and the power of a site
is also shared out where no request asks for it. -/
inductive HandlerStep where
  | answer (station : String) (r : Request)
  | followUp (station : String) (r : Request)
  | balance (station : String)

/-- A step of a hub in service: one of its handlers, a new start from what is on record, or one of
its watcher, which carries out the orders for the watch list. -/
inductive ServiceStep where
  | handler (now : Timestamp) (s : HandlerStep)
  | restart
  | drain

namespace Hub

def balance (h : Hub) (now : Timestamp) (station : String) : Hub :=
  match h.settings.tiers with
  | none => h
  | some tiers =>
    match h.plant.checkPowerLimit tiers now station with
    | .ok (_, plant) => { h with plant }
    | .error _ => h

def handlerStep (h : Hub) (now : Timestamp) : HandlerStep → Option Response × Hub
  | .answer station r =>
    let (response, h) := h.handle now station r
    (some response, h)
  | .followUp station r => (none, h.followUp now station r)
  | .balance station => (none, h.balance now station)

def reload (h : Hub) : Except Error Hub :=
  (Ledger.load h.plant.ledger.storage).map fun l =>
    { h with plant := { h.plant with ledger := h.plant.ledger.setRegistry l.registry } }

def rewatch (h : Hub) : Hub :=
  { h with
    watch := firstWatch h.settings h.plant.ledger.registry
    plant := { h.plant with ledger := { h.plant.ledger with queue := [] } } }

def restart (h : Hub) : Hub := h.reload.toOption.elim h rewatch

def serviceStep (h : Hub) : ServiceStep → List Response × Hub
  | .handler now s => ((h.handlerStep now s).1.toList, (h.handlerStep now s).2)
  | .restart => ([], h.restart)
  | .drain => ([], h.drain)

def runService (h : Hub) : List ServiceStep → List Response × Hub
  | [] => ([], h)
  | s :: rest =>
    ((h.serviceStep s).1 ++ ((h.serviceStep s).2.runService rest).1,
      ((h.serviceStep s).2.runService rest).2)

def runHandlers (h : Hub) (steps : List (Timestamp × HandlerStep)) : List Response × Hub :=
  h.runService (steps.map fun s => .handler s.1 s.2)

theorem runService_append (h : Hub) (ss ss' : List ServiceStep) :
    h.runService (ss ++ ss') = ((h.runService ss).1 ++ ((h.runService ss).2.runService ss').1,
      ((h.runService ss).2.runService ss').2) := by
  induction ss generalizing h with
  | nil => rfl
  | cons s rest ih => simp [runService, ih]

end Hub

def opened : List Response → Nat
  | [] => 0
  | r :: rest => r.opened + opened rest

theorem opened_append (rs rs' : List Response) : opened (rs ++ rs') = opened rs + opened rs' := by
  induction rs with
  | nil => simp [opened]
  | cons r rest ih => simp [opened, ih, Nat.add_assoc]

namespace Hub

variable {h : Hub} (now : Timestamp)

theorem runHandlers_nil : h.runHandlers [] = ([], h) := rfl

theorem runHandlers_cons (w : HandlerStep) (rest : List (Timestamp × HandlerStep)) :
    h.runHandlers ((now, w) :: rest) =
      ((h.handlerStep now w).1.toList ++ ((h.handlerStep now w).2.runHandlers rest).1,
        ((h.handlerStep now w).2.runHandlers rest).2) := rfl

theorem settings_followUp (station : String) (r : Request) :
    (h.followUp now station r).settings = h.settings := by
  unfold followUp
  split
  · rfl
  · dsimp only
    split <;> rfl

theorem settings_balance (station : String) : (h.balance now station).settings = h.settings := by
  unfold balance
  split
  · rfl
  · split <;> rfl

theorem settings_handlerStep (w : HandlerStep) : (h.handlerStep now w).2.settings = h.settings := by
  cases w with
  | answer station r => rfl
  | followUp station r => exact settings_followUp now station r
  | balance station => exact settings_balance now station

theorem settings_runHandlers (h : Hub) (ws : List (Timestamp × HandlerStep)) :
    (h.runHandlers ws).2.settings = h.settings := by
  induction ws generalizing h with
  | nil => rfl
  | cons w rest ih => exact (ih _).trans (settings_handlerStep w.1 w.2)

theorem followUp_of_tiers_eq_none (ht : h.settings.tiers = none) (station : String) (r : Request) :
    h.followUp now station r = h := by
  simp [followUp, ht]

theorem balance_of_tiers_eq_none (ht : h.settings.tiers = none) (station : String) :
    h.balance now station = h := by
  simp [balance, ht]

section Whole

variable (hw : h.plant.ledger.storage.broken = [])
include hw

theorem sharesOut_balance {tiers : PowerTiers} (ht : h.settings.tiers = some tiers)
    (station : String) :
    Plant.SharesOut tiers station h.plant.ledger (h.balance now station).plant.ledger := by
  obtain ⟨grants, q, hq, hs⟩ := Plant.sharesOut_checkPowerLimit hw tiers now station
  simp only [balance, ht, hq]
  exact hs

theorem sharesOut_followUp {tiers : PowerTiers} (ht : h.settings.tiers = some tiers)
    (station : String) (r : Request) :
    Plant.SharesOut tiers station h.plant.ledger (h.followUp now station r).plant.ledger := by
  obtain ⟨grants, q, hq, hs⟩ := Plant.sharesOut_checkPowerLimit hw tiers now station
  simp only [followUp, ht]
  cases r with
  | bootNotification r =>
    obtain ⟨p, hp, hquiet⟩ := Plant.quiet_applyDefault hw now station
    dsimp only
    by_cases hk : h.plant.ledger.registry.knows station = true
    · simp only [if_pos hk, hp]
      exact .nothing hquiet
    · simp only [if_neg hk]
      exact .nothing rfl
  | startTransaction r => simpa only [hq, Except.map] using hs
  | stopTransaction r => simpa only [hq, Except.map] using hs
  | statusNotification r => simpa only [hq, Except.map] using hs
  | _ => exact .nothing rfl

variable (hk : h.plant.ledger.Keyed)
include hk

theorem changes_handlerStep (w : HandlerStep) :
    Changes h.settings true (opened (h.handlerStep now w).1.toList) h.plant.ledger.quiet
      (h.handlerStep now w).2.plant.ledger.quiet := by
  cases w with
  | answer station r =>
    have hc : Changes h.settings true _ _ _ := Ledger.changes_answer now station hw hk r
    simpa [opened, handlerStep, handle] using hc
  | followUp station r =>
    cases ht : h.settings.tiers with
    | none =>
      rw [handlerStep, followUp_of_tiers_eq_none now ht]
      exact .refl _
    | some tiers => exact (sharesOut_followUp now hw ht station r).changes h.settings hw hk
  | balance station =>
    cases ht : h.settings.tiers with
    | none =>
      rw [handlerStep, balance_of_tiers_eq_none now ht]
      exact .refl _
    | some tiers => exact (sharesOut_balance now hw ht station).changes h.settings hw hk

theorem whole_handlerStep (w : HandlerStep) :
    (h.handlerStep now w).2.plant.ledger.storage.broken = [] ∧
      (h.handlerStep now w).2.plant.ledger.Keyed := by
  have hc := changes_handlerStep now hw hk w
  exact ⟨hc.broken.trans hw, hc.preserve (P := Ledger.Keyed) Change.keyed hk⟩

omit now in
/-- A run is a sequence of changes that takes as many transaction ids as its responses give out. -/
theorem changes_runHandlers (ws : List (Timestamp × HandlerStep)) :
    Changes h.settings true (opened (h.runHandlers ws).1) h.plant.ledger.quiet
      (h.runHandlers ws).2.plant.ledger.quiet := by
  induction ws generalizing h with
  | nil => exact .refl _
  | cons w rest ih =>
    obtain ⟨hw', hk'⟩ := whole_handlerStep w.1 hw hk w.2
    have hrest := ih hw' hk'
    rw [settings_handlerStep] at hrest
    have hsum := (changes_handlerStep w.1 hw hk w.2).trans hrest
    rw [← opened_append] at hsum
    exact hsum

omit now in
theorem whole_runHandlers (ws : List (Timestamp × HandlerStep)) :
    (h.runHandlers ws).2.plant.ledger.storage.broken = [] ∧
      (h.runHandlers ws).2.plant.ledger.Keyed := by
  have hc := changes_runHandlers hw hk ws
  exact ⟨hc.broken.trans hw, hc.preserve (P := Ledger.Keyed) Change.keyed hk⟩

end Whole

end Hub

namespace Database

def depot : Database :=
  ({ locations := .ofList [("depot", ⟨"depot", "Depot", 32, 64, ["north"]⟩)] } : Database)
    |>.putChargePoint { id := "north", location := some "depot", smartCharging := true }
    |>.putChargePoint { id := "south", location := some "depot", smartCharging := true }
    |>.putTransaction
      { id := 7, chargePoint := "north", connector := 1, idTag := "tag", meterStart := 0,
        timeStart := .epoch }
    |>.putConnector "north" { id := 1, status := .charging, transaction := 7 }
    |>.putConnector "south" { id := 1 }

theorem keyed_depot : depot.Keyed := by
  apply Keyed.putConnector
  apply Keyed.putConnector
  apply Keyed.putTransaction
  apply Keyed.putChargePoint
  apply Keyed.putChargePoint
  constructor <;> simp [connector?, connectorsOf, Table.ofList, Table.get?_insert]

theorem connector?_depot {s : String} {i : UInt32} {c : Connector}
    (h : depot.connector? s i = some c) :
    i = 1 ∧ (s = "north" ∧ c = { id := 1, status := .charging, transaction := 7 } ∨
      s = "south" ∧ c = { id := 1 }) := by
  simp only [depot, connector?_putConnector] at h
  split at h
  · simp_all
  · split at h
    · simp_all
    · simp [connector?, connectorsOf, putChargePoint, putTransaction] at h

theorem transactions_depot {id : Int32} {t : Transaction}
    (h : depot.transactions.get? id = some t) : id = 7 := by
  simp [depot, putConnector, putTransaction, putChargePoint, Table.get?_insert] at h
  exact h.1

theorem consistent_depot : depot.Consistent where
  keyed := keyed_depot
  owner s i c hc := by
    rcases (connector?_depot hc).2 with ⟨rfl, -⟩ | ⟨rfl, -⟩
    · exact ⟨_, rfl⟩
    · exact ⟨_, rfl⟩
  link s i c hc ha := by
    rcases (connector?_depot hc).2 with ⟨rfl, rfl⟩ | ⟨rfl, rfl⟩
    · exact ⟨_, rfl, rfl, rfl, rfl⟩
    · cases ha
  nonneg id t ht := by
    obtain rfl := transactions_depot ht
    decide

end Database

def Ledger.depot : Ledger := (Ledger.load { database := .depot }).toOption.getD default

theorem Ledger.load_depot : Ledger.load { database := .depot } = .ok .depot := by
  decide +kernel

def Hub.depot : Hub where
  settings :=
    { heartbeatInterval := 300
      autoRegisterChargePoints := true
      autoRegisterTags := true
      busyPolicy := .accept
      tiers := some ⟨32, 16, 6⟩
      watching := false }
  plant :=
    { ledger := .depot
      switchboard := (({} : Switchboard).connect "north").2.connect "south" |>.2 }

def HandlerStep.depot (now : Timestamp) : List (Timestamp × HandlerStep) :=
  let start := .startTransaction
    { connectorId := 1, idTag := "tag", meterStart := 0, reservationId := none,
      timestamp := .epoch }
  let stop := .stopTransaction
    { idTag := none, meterStop := 9, timestamp := .epoch, transactionId := 7, reason := none,
      transactionData := none }
  [.balance "north", .answer "south" start, .followUp "south" start, .answer "north" stop,
    .followUp "north" stop].map (now, ·)

theorem opened_depot :
    Database.depot.highestId + opened (Hub.depot.runHandlers (HandlerStep.depot .epoch)).1 = 8 := by
  decide +kernel

end CentralSystem
