import CentralSystem.Proofs.Ledger.Course
import CentralSystem.Proofs.Restart

namespace CentralSystem

namespace Hub

/-- A hub whose registry is a cache of a whole storage. -/
structure Sound (h : Hub) : Prop where
  whole : h.plant.ledger.storage.broken = []
  backed : h.plant.ledger.registry.Backed h.plant.ledger.database

namespace Sound

variable {h : Hub} (hs : h.Sound)
include hs

theorem keyed : h.plant.ledger.Keyed := Ledger.keyed_of_backed hs.backed

theorem restart : h.restart.Sound ∧ h.restart.plant.ledger.database = h.plant.ledger.database ∧
    h.restart.plant.ledger.events = h.plant.ledger.events := by
  obtain ⟨r, hloads, hreload⟩ := reload_ok hs.whole hs.backed.keyed
  rw [Hub.restart, hreload]
  exact ⟨⟨hs.whole, hloads.backed hs.backed.consistent⟩, rfl, rfl⟩

theorem serviceStep (s : ServiceStep)
    (hn : h.plant.ledger.database.highestId + opened (h.serviceStep s).1 ≤ 2 ^ 31 - 1) :
    (h.serviceStep s).2.Sound ∧ h.plant.ledger.Tells (h.serviceStep s).2.plant.ledger ∧
      (h.serviceStep s).2.plant.ledger.database.highestId =
        h.plant.ledger.database.highestId + opened (h.serviceStep s).1 := by
  cases s with
  | handler now s =>
    have hc := changes_handlerStep now hs.whole hs.keyed s
    obtain ⟨hb, hhigh⟩ := hc.backed hs.backed hn
    exact ⟨⟨hc.broken.trans hs.whole, hb⟩, hc.tells hs.backed hn, hhigh⟩
  | restart =>
    obtain ⟨hsound, hdb, hevents⟩ := hs.restart
    simp only [Hub.serviceStep, hdb]
    exact ⟨hsound, .of_eq hevents (congrArg Database.transactions hdb), (Int.add_zero _).symm⟩
  | drain => exact ⟨⟨hs.whole, hs.backed⟩, .of_eq rfl rfl, (Int.add_zero _).symm⟩

theorem runService (ss : List ServiceStep)
    (hn : h.plant.ledger.database.highestId + opened (h.runService ss).1 ≤ 2 ^ 31 - 1) :
    (h.runService ss).2.Sound ∧ h.plant.ledger.Tells (h.runService ss).2.plant.ledger ∧
      (h.runService ss).2.plant.ledger.database.highestId =
        h.plant.ledger.database.highestId + opened (h.runService ss).1 := by
  induction ss generalizing h with
  | nil => exact ⟨hs, .of_eq rfl rfl, (Int.add_zero _).symm⟩
  | cons s rest ih =>
    simp only [Hub.runService, opened_append] at hn ⊢
    obtain ⟨hmid, htells, hhigh⟩ := hs.serviceStep s (by omega)
    obtain ⟨hlast, htells', hhigh'⟩ := ih hmid (by omega)
    exact ⟨hlast, htells.trans htells', by omega⟩

end Sound

end Hub

def ServiceStep.depot : List ServiceStep :=
  let steps := (HandlerStep.depot .epoch).map fun s => .handler s.1 s.2
  steps.take 2 ++ .drain :: (steps.drop 2).take 1 ++ .restart :: steps.drop 3 ++
    .restart :: steps.drop 3

end CentralSystem
