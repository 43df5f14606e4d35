import CentralSystem.Proofs.Ledger.Simulation
import CentralSystem.Proofs.Mirror
import CentralSystem.Proofs.Switchboard

namespace CentralSystem

namespace Ledger.Alike

open Plant

variable {l l' : Ledger} (h : Alike l l')
include h

theorem chargePoints (s : String) : (l.database.chargePoints.get? s).map ChargePoint.unseen =
    (l'.database.chargePoints.get? s).map ChargePoint.unseen := by
  rw [← Table.get?_map, ← Table.get?_map]
  exact congrArg (Table.get? · s)
    (show l.database.unseen.chargePoints = l'.database.unseen.chargePoints by rw [h.database])

theorem named? (s : String) : l.database.named? s = l'.database.named? s := by
  have hs := h.chargePoints s
  rw [Database.named?, Database.named?]
  cases hx : l.database.chargePoints.get? s <;> cases hx' : l'.database.chargePoints.get? s <;>
    simp_all only [Option.map_none, Option.map_some, reduceCtorEq, Option.some.injEq]
  exact (ChargePoint.of_unseen_eq hs).2.1

theorem isSmart (s : String) : l.database.isSmart s = l'.database.isSmart s := by
  have hs := h.chargePoints s
  rw [Database.isSmart, Database.isSmart]
  cases hx : l.database.chargePoints.get? s <;> cases hx' : l'.database.chargePoints.get? s <;>
    simp_all only [Option.map_none, Option.map_some, reduceCtorEq, Option.some.injEq]
  exact (ChargePoint.of_unseen_eq hs).2.2.1

theorem locationOf? (s : String) : l.database.locationOf? s = l'.database.locationOf? s := by
  have hl : l.database.locations = l'.database.locations :=
    show l.database.unseen.locations = l'.database.unseen.locations by rw [h.database]
  rw [Database.locationOf?, Database.locationOf?, h.named?, hl]

theorem site (location : Location) (s : String) :
    site l location s = Plant.site l' location s := by
  have hk : l.registry.stations.keys = l'.registry.stations.keys := by
    rw [← Table.keys_map _ Station.unseen, h.stations, Table.keys_map]
  simp only [Plant.site, hk, h.named?]

theorem smartConnectors (ms : List String) :
    smartConnectors l ms = Plant.smartConnectors l' ms := by
  have hc (s : String) : (l.registry.stations.get? s).elim [] (·.connectors.values) =
      (l'.registry.stations.get? s).elim [] (·.connectors.values) := by
    have hs := congrArg (fun o => o.elim [] (·.connectors.values)) (h.station s)
    rw [Option.elim_map, Option.elim_map] at hs
    exact hs
  simp only [Plant.smartConnectors, hc, funext h.isSmart]

theorem setLimit (s : String) (c : Connector) (amps : Int32) :
    Alike (setLimit l s c amps) (Plant.setLimit l' s c amps) := by
  apply of_quiet
  rw [quiet_setLimit h.whole, quiet_setLimit h.whole']
  exact { h.quiet with
    stations := by
      simp only [registry_setDatabase, registry_setRegistry]
      rw [Registry.map_setConnector, h.stations, ← Registry.map_setConnector]
    database := congrArg (·.limitConnector s c.id amps) h.database }

omit h in
theorem assign (as : List Assignment) {l l' : Ledger} (h : Alike l l') :
    Alike (assign l as) (Plant.assign l' as) := by
  induction as generalizing l l' with
  | nil => exact h
  | cons a rest ih => exact ih (h.setLimit a.1.1 a.1.2 a.2)

end Ledger.Alike

namespace Plant

structure Alike (p p' : Plant) : Prop where
  ledger : p.ledger.Alike p'.ledger
  switchboard : p.switchboard.Alike p'.switchboard

namespace Alike

variable {p p' : Plant} (h : p.Alike p') (now now' : Timestamp)
include h

theorem command (station : String) {c c' : Command} (hc : c.untimed = c'.untimed)
    (failed : Error → Notice) :
    (p.command station c failed).Alike (p'.command station c' failed) := by
  unfold Plant.command
  rcases h.switchboard.request station hc with ⟨e, he, he'⟩ | ⟨id, t, t', ht, ht', ha⟩
  · rw [he, he']
    exact ⟨h.ledger.note _ _, h.switchboard⟩
  · rw [ht, ht']
    exact ⟨h.ledger, ha⟩

theorem sendGrant (g : Grant) : (p.sendGrant now g).Alike (p'.sendGrant now' g) := by
  rcases g.command_cases with ⟨e, he⟩ | ⟨f, hf, hu⟩
  · simp only [Plant.sendGrant, he]
    exact ⟨h.ledger.note _ _, h.switchboard⟩
  · simp only [Plant.sendGrant, hf]
    exact h.command g.chargePoint (hu now now') _

omit h in
theorem foldl_sendGrant (grants : List Grant) {p p' : Plant} (h : p.Alike p') :
    (grants.foldl (Plant.sendGrant now) p).Alike (grants.foldl (Plant.sendGrant now') p') := by
  induction grants generalizing p p' with
  | nil => exact h
  | cons g rest ih => exact ih (h.sendGrant now now' g)

theorem checkTotal (location : Location) (sum : Int32) :
    (p.checkTotal location sum).Alike (p'.checkTotal location sum) := by
  unfold Plant.checkTotal
  split
  · exact ⟨h.ledger.note _ _, h.switchboard⟩
  · exact h

theorem shareOut (tiers : PowerTiers) (location : Location) (cs : List (String × Connector)) :
    (p.shareOut tiers now location cs).1 = (p'.shareOut tiers now' location cs).1 ∧
      (p.shareOut tiers now location cs).2.Alike (p'.shareOut tiers now' location cs).2 := by
  refine ⟨(shareOut_fst ..).trans (shareOut_fst ..).symm, ?_⟩
  rw [shareOut_eq, shareOut_eq]
  have ha : Plant.Alike { p with ledger := assign p.ledger (assignments tiers cs) }
      { p' with ledger := assign p'.ledger (assignments tiers cs) } :=
    ⟨.assign _ h.ledger, h.switchboard⟩
  unfold announce
  cases addUp? (heldAfter tiers cs) with
  | none => exact ⟨ha.ledger.note _ _, ha.switchboard⟩
  | some sum => exact foldl_sendGrant now now' _ (ha.checkTotal _ _)

theorem checkPowerLimit (tiers : PowerTiers) (station : String) :
    ∃ result q q', p.checkPowerLimit tiers now station = .ok (result, q) ∧
      p'.checkPowerLimit tiers now' station = .ok (result, q') ∧ q.Alike q' := by
  cases hl : p.ledger.database.locationOf? station with
  | none =>
    obtain ⟨q, hq, hquiet, hs⟩ := checkPowerLimit_of_none h.ledger.whole hl tiers now
    obtain ⟨q', hq', hquiet', hs'⟩ := checkPowerLimit_of_none h.ledger.whole'
      ((h.ledger.locationOf? station).symm.trans hl) tiers now'
    refine ⟨some [], q, q', hq, hq', .of_quiet ?_, ?_⟩
    · rw [hquiet, hquiet']
      exact h.ledger.quiet
    · rw [hs, hs']
      exact h.switchboard
  | some location =>
    have hs := checkPowerLimit_of_some h.ledger.whole hl tiers now
    have hs' := checkPowerLimit_of_some h.ledger.whole'
      ((h.ledger.locationOf? station).symm.trans hl) tiers now'
    rw [← h.ledger.site, ← h.ledger.smartConnectors] at hs'
    obtain ⟨hg, ha⟩ := h.shareOut now now' tiers location
      (smartConnectors p.ledger (site p.ledger location station))
    generalize p.shareOut tiers now location _ = out at hs hg ha
    generalize p'.shareOut tiers now' location _ = out' at hs' hg ha
    exact ⟨out.1, out.2, out'.2, hs, hg ▸ hs', ha⟩

theorem applyDefault (station : String) : ∃ q q', p.applyDefault now station = .ok q ∧
    p'.applyDefault now' station = .ok q' ∧ q.Alike q' := by
  cases hl : p.ledger.database.locationOf? station with
  | none =>
    obtain ⟨q, hq, hquiet, hs⟩ := applyDefault_of_none h.ledger.whole hl now
    obtain ⟨q', hq', hquiet', hs'⟩ := applyDefault_of_none h.ledger.whole'
      ((h.ledger.locationOf? station).symm.trans hl) now'
    refine ⟨q, q', hq, hq', .of_quiet ?_, ?_⟩
    · rw [hquiet, hquiet']
      exact h.ledger.quiet
    · rw [hs, hs']
      exact h.switchboard
  | some location =>
    have hs := applyDefault_of_some h.ledger.whole hl now
    have hs' := applyDefault_of_some h.ledger.whole'
      ((h.ledger.locationOf? station).symm.trans hl) now'
    exact ⟨_, _, hs, hs', h.command station (location.untimed_defaultProfile now now') _⟩

end Alike

end Plant

namespace Hub

structure Alike (h h' : Hub) : Prop where
  settings : h.settings = h'.settings
  plant : h.plant.Alike h'.plant

namespace Alike

variable {h h' : Hub} (ha : h.Alike h') (now now' : Timestamp)
include ha

theorem balance (station : String) : (h.balance now station).Alike (h'.balance now' station) := by
  unfold Hub.balance
  rw [← ha.settings]
  cases ht : h.settings.tiers with
  | none => exact ha
  | some tiers =>
    obtain ⟨result, q, q', hq, hq', hqq⟩ := ha.plant.checkPowerLimit now now' tiers station
    simp only [hq, hq']
    exact ⟨rfl, hqq⟩

theorem followUp (station : String) (r : Request) :
    (h.followUp now station r).Alike (h'.followUp now' station r) := by
  unfold Hub.followUp
  rw [← ha.settings]
  cases ht : h.settings.tiers with
  | none => exact ha
  | some tiers =>
    obtain ⟨result, q, q', hq, hq', hqq⟩ := ha.plant.checkPowerLimit now now' tiers station
    cases r with
    | bootNotification r =>
      obtain ⟨p, p', hp, hp', hpp⟩ := ha.plant.applyDefault now now' station
      dsimp only
      rw [ha.plant.ledger.knows]
      by_cases hk : h'.plant.ledger.registry.knows station = true
      · simp only [if_pos hk, hp, hp']
        exact ⟨rfl, hpp⟩
      · simp only [if_neg hk]
        exact ⟨rfl, ha.plant⟩
    | startTransaction r =>
      simp only [hq, hq', Except.map]
      exact ⟨rfl, hqq⟩
    | stopTransaction r =>
      simp only [hq, hq', Except.map]
      exact ⟨rfl, hqq⟩
    | statusNotification r =>
      simp only [hq, hq', Except.map]
      exact ⟨rfl, hqq⟩
    | _ => exact ⟨rfl, ha.plant⟩

theorem handlerStep (hk : h.plant.ledger.Keyed) (w : HandlerStep) :
    (h.handlerStep now w).1.map Response.untimed = (h'.handlerStep now' w).1.map Response.untimed ∧
      (h.handlerStep now w).2.Alike (h'.handlerStep now' w).2 := by
  cases w with
  | answer station r =>
    obtain ⟨hr, hl⟩ := ha.plant.ledger.answer h.settings now now' station
      (Ledger.id_of_record? hk) r
    have hact : h'.handlerStep now' (.answer station r) =
        (some (h'.plant.ledger.answer h.settings now' station r).1,
          { h' with
            plant := { h'.plant with
              ledger := (h'.plant.ledger.answer h.settings now' station r).2 } }) := by
      rw [ha.settings]
      rfl
    rw [hact]
    exact ⟨congrArg some hr, ha.settings, hl, ha.plant.switchboard⟩
  | followUp station r => exact ⟨rfl, ha.followUp now now' station r⟩
  | balance station => exact ⟨rfl, ha.balance now now' station⟩

omit ha now now' in
theorem runHandlers {h h' : Hub} (ha : h.Alike h') (hk : h.plant.ledger.Keyed)
    {ws ws' : List (Timestamp × HandlerStep)} (hw : ws.map Prod.snd = ws'.map Prod.snd) :
    (h.runHandlers ws).1.map Response.untimed = (h'.runHandlers ws').1.map Response.untimed ∧
      (h.runHandlers ws).2.Alike (h'.runHandlers ws').2 := by
  induction ws generalizing h h' ws' with
  | nil =>
    obtain rfl : ws' = [] := by simpa using hw.symm
    exact ⟨rfl, ha⟩
  | cons w rest ih =>
    obtain ⟨⟨now', w'⟩, rest', rfl, he, hrest⟩ := List.map_eq_cons_iff.1 hw.symm
    obtain ⟨now, w⟩ := w
    obtain rfl : w' = w := he
    obtain ⟨hr, hact⟩ := ha.handlerStep now now' hk w'
    have hc := changes_handlerStep now ha.plant.ledger.whole hk w'
    obtain ⟨hrs, hlast⟩ := ih hact (hc.preserve Change.keyed hk) hrest.symm
    rw [runHandlers_cons, runHandlers_cons]
    refine ⟨?_, hlast⟩
    rw [List.map_append, List.map_append, hrs, ← Option.toList_map, hr, Option.toList_map]

end Alike

theorem reload_ok {h : Hub} (hw : h.plant.ledger.storage.broken = [])
    (hk : h.plant.ledger.database.Keyed) :
    ∃ r : Registry, r.Loads h.plant.ledger.database (Registry.Stored h.plant.ledger.database)
        (fun s _ => Registry.Stored h.plant.ledger.database s) ∧
      h.reload = .ok { h with plant := { h.plant with
        ledger := h.plant.ledger.setRegistry r } } := by
  obtain ⟨l, hl, -, hloads⟩ := Ledger.load_ok hk
  refine ⟨l.registry, hloads, ?_⟩
  rw [reload, Storage.eq_of_broken_eq_nil hw, hl]
  rfl

end Hub

namespace Ledger

/-- What is loaded anew is like what was there, as long as the counter has not wrapped. -/
theorem alike_of_loads {l : Ledger} (hw : l.storage.broken = [])
    (h : l.registry.Backed l.database) (hlt : l.database.highestId < 2 ^ 31 - 1) {r : Registry}
    (hr : r.Loads l.database (Registry.Stored l.database) fun s _ => Registry.Stored l.database s) :
    Alike l (l.setRegistry r) := by
  have h' : (l.setRegistry r).registry.Backed (l.setRegistry r).database := hr.backed h.consistent
  refine
    { whole := hw
      whole' := hw
      stations := Table.ext_get? fun s => ?_
      nextId := Int32.toInt_inj.1 ((h.nextId hlt).trans (h'.nextId hlt).symm)
      record := fun id => by
        rw [record?_of_backed h, record?_of_backed h']
        rfl
      database := rfl
      queue := rfl
      events := rfl }
  rw [Table.get?_map, Table.get?_map]
  exact Registry.map_get?_stations ((h.chargePoint s).trans (h'.chargePoint s).symm)
    fun i => (h.connector s i).trans (h'.connector s i).symm

end Ledger

/-- A hub that is loaded anew from what is on record takes up the counter of the running one, finds
the same transactions, and whatever comes in from then on has the same responses, events, Calls and
records, up to the times that are told in them. The last id must not have been given out: behind it
the counter wraps, while a load stays at the last id. -/
theorem restart_runHandlers {db : Database} (hc : db.Consistent) :
    ∃ l, Ledger.load { database := db } = .ok l ∧ ∀ h : Hub, h.plant.ledger = l →
      ∀ ws, db.highestId + opened (h.runHandlers ws).1 < 2 ^ 31 - 1 →
        ∃ h', (h.runHandlers ws).2.reload = .ok h' ∧
          (h.runHandlers ws).2.plant.ledger.registry.nextId = h'.plant.ledger.registry.nextId ∧
          (∀ id, ((h.runHandlers ws).2.plant.ledger.findTransaction id).1 =
            (h'.plant.ledger.findTransaction id).1) ∧
          ∀ more more', more.map Prod.snd = more'.map Prod.snd →
            ((h.runHandlers ws).2.runHandlers more).1.map Response.untimed =
                (h'.runHandlers more').1.map Response.untimed ∧
              ((h.runHandlers ws).2.runHandlers more).2.plant.ledger.events =
                (h'.runHandlers more').2.plant.ledger.events ∧
              ((h.runHandlers ws).2.runHandlers more).2.plant.switchboard.Alike
                (h'.runHandlers more').2.plant.switchboard ∧
              ((h.runHandlers ws).2.runHandlers more).2.plant.ledger.database.unseen =
                (h'.runHandlers more').2.plant.ledger.database.unseen := by
  obtain ⟨l, hl, hrun⟩ := backed_runHandlers hc
  refine ⟨l, hl, fun h hh ws hlt => ?_⟩
  obtain ⟨hb, hhigh, hw⟩ := hrun h hh ws (Int.le_of_lt hlt)
  rw [← hhigh] at hlt
  generalize (h.runHandlers ws).2 = m at *
  obtain ⟨l', hl', -, hloads⟩ := Ledger.load_ok hb.keyed
  have hreload : m.reload = .ok { m with plant := { m.plant with
      ledger := m.plant.ledger.setRegistry l'.registry } } := by
    rw [Hub.reload, Storage.eq_of_broken_eq_nil hw, hl']
    rfl
  have halike := Ledger.alike_of_loads hw hb hlt hloads
  refine ⟨_, hreload, halike.nextId, fun id => ?_, fun more more' hmore => ?_⟩
  · rw [(Ledger.findTransaction_eq halike.whole id).1,
      (Ledger.findTransaction_eq halike.whole' id).1]
    exact halike.record id
  · have ha : Hub.Alike m { m with plant := { m.plant with
        ledger := m.plant.ledger.setRegistry l'.registry } } := ⟨rfl, halike, .refl _⟩
    obtain ⟨hresponses, hlast⟩ := ha.runHandlers (Ledger.keyed_of_backed hb) hmore
    exact ⟨hresponses, hlast.plant.ledger.events, hlast.plant.switchboard,
      hlast.plant.ledger.database⟩

theorem restart_runHandlers_depot :
    let h := (Hub.depot.runHandlers (HandlerStep.depot .epoch)).2
    ∃ h', h.reload = .ok h' ∧
      (h.runHandlers (HandlerStep.depot .epoch)).2.plant.ledger.events =
        (h'.runHandlers (HandlerStep.depot
          ⟨⟨2024, 2, 29⟩, ⟨12, 0, 0, 0⟩, by decide, by decide⟩)).2.plant.ledger.events := by
  obtain ⟨l, hl, hrun⟩ := restart_runHandlers Database.consistent_depot
  obtain rfl : Ledger.depot = l := Except.ok.inj (Ledger.load_depot.symm.trans hl)
  obtain ⟨h', hreload, -, -, hmore⟩ := hrun .depot rfl (HandlerStep.depot .epoch)
    (by rw [opened_depot]; decide)
  obtain ⟨-, hevents, -⟩ := hmore (HandlerStep.depot .epoch)
    (HandlerStep.depot ⟨⟨2024, 2, 29⟩, ⟨12, 0, 0, 0⟩, by decide, by decide⟩) rfl
  exact ⟨h', hreload, hevents⟩

-- With the last id given out, the counters part: the running one has wrapped.
example :
    let db := Database.depot.putTransaction
      { id := 2147483646, chargePoint := "south", connector := 1, idTag := "tag", meterStart := 0,
        timeStart := .epoch, isFinished := true }
    let l := (Ledger.load { database := db }).toOption.getD default
    let h := ({ Hub.depot with plant := { Hub.depot.plant with ledger := l } }.runHandlers
      (HandlerStep.depot .epoch)).2
    h.plant.ledger.registry.nextId = Int32.minValue ∧
      h.reload.toOption.map (·.plant.ledger.registry.nextId) = some Int32.maxValue := by
  decide +kernel

end CentralSystem
