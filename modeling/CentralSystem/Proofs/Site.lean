import CentralSystem.Proofs.Requests

namespace CentralSystem

open Plant

/-- Whether a charge point takes part when another asks for a sharing of power at a location. -/
structure Ledger.TakesPart (l : Ledger) (location : Location) (station s : String) : Prop where
  known : l.registry.knows s = true
  smart : l.database.isSmart s = true
  place : s = station ∨ s ∈ location.chargePoints ∨ l.database.named? s = some location.id

namespace Plant

variable {l : Ledger} {location : Location} {station : String}

theorem mem_smartConnectors_site (hkey : ∀ s i c, l.registry.connector? s i = some c → c.id = i)
    {e : String × Connector} : e ∈ smartConnectors l (site l location station) ↔
      l.TakesPart location station e.1 ∧ l.registry.connector? e.1 e.2.id = some e.2 := by
  rw [mem_smartConnectors hkey, mem_site]
  constructor
  · rintro ⟨hs, hsmart, hc⟩
    refine ⟨⟨Registry.knows_of_connector? hc, hsmart, ?_⟩, hc⟩
    rcases hs with h | h | ⟨-, h⟩
    · exact .inr (.inl h)
    · exact .inl h
    · exact .inr (.inr h)
  · rintro ⟨⟨hknown, hsmart, hp⟩, hc⟩
    refine ⟨?_, hsmart, hc⟩
    rcases hp with h | h | h
    · exact .inr (.inl h)
    · exact .inl h
    · exact .inr (.inr ⟨hknown, h⟩)

theorem smartConnectors_filter_knows (ms : List String) :
    smartConnectors l (ms.filter l.registry.knows) = smartConnectors l ms := by
  unfold smartConnectors
  induction ms with
  | nil => rfl
  | cons s rest ih =>
    by_cases hk : l.registry.knows s = true
    · rw [List.filter_cons_of_pos hk]
      by_cases hs : l.database.isSmart s = true
      · simp only [List.filter_cons_of_pos hs, List.flatMap_cons, ih]
      · simp only [List.filter_cons_of_neg hs, ih]
    · rw [List.filter_cons_of_neg hk, ih]
      have hnone : l.registry.stations.get? s = none := by
        simpa [Registry.knows, Table.contains] using hk
      by_cases hs : l.database.isSmart s = true
      · simp [List.filter_cons_of_pos hs, List.flatMap_cons, hnone]
      · rw [List.filter_cons_of_neg hs]

theorem filter_knows_site {a b : String} (ha : l.database.named? a = some location.id)
    (hb : l.database.named? b = some location.id) :
    (site l location a).filter l.registry.knows = (site l location b).filter l.registry.knows := by
  have hknown {station : String} (h : l.database.named? station = some location.id) (s : String) :
      s ∈ (site l location station).filter l.registry.knows ↔ l.registry.knows s = true ∧
        (s ∈ location.chargePoints ∨ l.database.named? s = some location.id) := by
    rw [List.mem_filter, mem_site]
    constructor
    · rintro ⟨hs, hk⟩
      refine ⟨hk, hs.imp_right fun hs => ?_⟩
      rcases hs with rfl | ⟨-, hs⟩
      · exact h
      · exact hs
    · rintro ⟨hk, hs⟩
      exact ⟨hs.imp_right fun hs => .inr ⟨hk, hs⟩, hk⟩
  exact Table.eq_of_sorted ((Table.sorted_keys _).filter _) ((Table.sorted_keys _).filter _)
    fun s => (hknown ha s).trans (hknown hb s).symm

theorem locationOf?_of_named (hloc : l.database.locations.get? location.id = some location)
    (h : l.database.named? station = some location.id) :
    l.database.locationOf? station = some location := by
  rw [Database.locationOf?, h]
  exact hloc

/-- It makes no difference which of the charge points that name a location asks for a sharing of
power there. -/
theorem checkPowerLimit_eq_of_named {p : Plant} (location : Location) {a b : String}
    (hloc : p.ledger.database.locations.get? location.id = some location)
    (ha : p.ledger.database.named? a = some location.id)
    (hb : p.ledger.database.named? b = some location.id) (tiers : PowerTiers) (now : Timestamp) :
    p.checkPowerLimit tiers now a = p.checkPowerLimit tiers now b := by
  by_cases hw : p.ledger.storage.Works .getChargePoint
  · by_cases hl : p.ledger.storage.Works .getLocation
    · rw [checkPowerLimit_of_works hw hl (locationOf?_of_named hloc ha),
        checkPowerLimit_of_works hw hl (locationOf?_of_named hloc hb),
        ← smartConnectors_filter_knows (site _ _ a), filter_knows_site ha hb,
        smartConnectors_filter_knows]
    · have hfails {station : String} (h : p.ledger.database.named? station = some location.id) :
          p.checkPowerLimit tiers now station =
            .error (.database ("injected fault in " ++ StorageOperation.getLocation.name)) := by
        rw [Database.named?] at h
        simp only [checkPowerLimit, locationOf, Storage.chargePoint?, Storage.location?,
          Storage.attempt_of_works hw, Storage.attempt_of_not_works hl, bind, Except.bind, h]
      rw [hfails ha, hfails hb]
  · simp only [checkPowerLimit, locationOf, Storage.chargePoint?, Storage.attempt_of_not_works hw,
      bind, Except.bind]

def westDepot : Plant where
  ledger :=
    { Ledger.depot with
      storage :=
        { database := Database.depot.putChargePoint
            { id := "west", location := some "depot", smartCharging := true } } }
  switchboard := {}

theorem checkPowerLimit_westDepot :
    westDepot.checkPowerLimit ⟨32, 16, 6⟩ .epoch "west" =
        westDepot.checkPowerLimit ⟨32, 16, 6⟩ .epoch "south" ∧
      (westDepot.checkPowerLimit ⟨32, 16, 6⟩ .epoch "west").toOption.map (·.1) =
        some (some [⟨"north", 1, 7, 32⟩]) :=
  ⟨checkPowerLimit_eq_of_named ⟨"depot", "Depot", 32, 64, ["north"]⟩ (by decide +kernel)
    (by decide +kernel) (by decide +kernel) ⟨32, 16, 6⟩ .epoch, by decide +kernel⟩

end Plant

end CentralSystem
