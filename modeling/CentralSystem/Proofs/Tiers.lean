import CentralSystem.Proofs.Run
import Mathlib.Data.List.Nodup
import Mathlib.Tactic.Linarith

namespace CentralSystem

namespace PowerTiers

variable {tiers : PowerTiers}

theorem isDescending_iff : tiers.isDescending = true ↔ 0 < tiers.floor.toInt ∧
    tiers.floor.toInt < tiers.middle.toInt ∧ tiers.middle.toInt < tiers.high.toInt := by
  simp only [isDescending, Bool.and_eq_true, decide_eq_true_eq, Int32.lt_iff_toInt_lt,
    Int32.toInt_zero]
  constructor
  · rintro ⟨⟨h₁, h₂⟩, h₃⟩
    exact ⟨h₃, h₂, h₁⟩
  · rintro ⟨h₃, h₂, h₁⟩
    exact ⟨⟨h₁, h₂⟩, h₃⟩

theorem ne_of_isDescending (h : tiers.isDescending = true) : tiers.floor ≠ 0 ∧ tiers.middle ≠ 0 ∧
    tiers.high ≠ 0 ∧ tiers.middle ≠ tiers.floor ∧ tiers.high ≠ tiers.floor ∧
      tiers.high ≠ tiers.middle := by
  obtain ⟨h₁, h₂, h₃⟩ := isDescending_iff.1 h
  have hne {a b : Int32} (hlt : b.toInt < a.toInt) : a ≠ b := fun he => by
    rw [he] at hlt
    exact Int.lt_irrefl _ hlt
  have hm : (0 : Int32).toInt < tiers.middle.toInt := Int32.toInt_zero ▸ h₁.trans h₂
  exact ⟨hne h₁, hne hm, hne (hm.trans h₃), hne h₂, hne (h₂.trans h₃), hne h₃⟩

theorem pick_cases (held : List Int32) : tiers.pick held = tiers.floor ∨
    (tiers.pick held = tiers.high ∨ tiers.pick held = tiers.middle) ∧ tiers.pick held ∉ held := by
  unfold pick
  cases hf : [tiers.high, tiers.middle].find? (!held.contains ·) with
  | none => exact .inl rfl
  | some x =>
    refine .inr ⟨by simpa using List.mem_of_find?_eq_some hf, ?_⟩
    simpa using List.find?_some hf

theorem mem_picks {held : List Int32} {n : Nat} {x : Int32} (h : x ∈ tiers.picks held n) :
    x = tiers.floor ∨ (x = tiers.high ∨ x = tiers.middle) ∧ x ∉ held := by
  induction n generalizing held with
  | zero => cases h
  | succ n ih =>
    rcases List.mem_cons.1 h with rfl | h
    · exact pick_cases held
    · rcases ih h with hf | ⟨hx, hn⟩
      · exact .inl hf
      · exact .inr ⟨hx, fun hm => hn (List.mem_append_left _ hm)⟩

theorem nodup_picks (tiers : PowerTiers) (held : List Int32) (n : Nat) :
    ((tiers.picks held n).filter (· != tiers.floor)).Nodup := by
  induction n generalizing held with
  | zero => exact .nil
  | succ n ih =>
    rw [picks, List.filter_cons]
    split
    · rename_i hp
      refine List.nodup_cons.2 ⟨fun hm => ?_, ih _⟩
      obtain ⟨hm, -⟩ := List.mem_filter.1 hm
      rcases mem_picks hm with he | ⟨-, hn⟩
      · simp [he] at hp
      · exact hn (by simp)
    · exact ih _

/-- How the limits at a location stand to the tiers: no two connectors have the same upper tier, and
who has neither of them has the floor or no limit. -/
structure Exclusive (tiers : PowerTiers) (limits : List Int32) : Prop where
  high : limits.count tiers.high ≤ 1
  middle : limits.count tiers.middle ≤ 1
  tier : ∀ x ∈ limits, x ≠ 0 → x = tiers.high ∨ x = tiers.middle ∨ x = tiers.floor
  total : 2 ≤ limits.countP (· ≠ 0) → (limits.map Int32.toInt).sum ≤ tiers.high.toInt +
    tiers.middle.toInt + (limits.countP (· ≠ 0) - 2) * tiers.floor.toInt

theorem sum_limits (hd : tiers.isDescending = true) {limits : List Int32}
    (ht : ∀ x ∈ limits, x ≠ 0 → x = tiers.high ∨ x = tiers.middle ∨ x = tiers.floor) :
    (limits.map Int32.toInt).sum = limits.count tiers.high * tiers.high.toInt +
        limits.count tiers.middle * tiers.middle.toInt +
        limits.count tiers.floor * tiers.floor.toInt ∧
      limits.countP (· ≠ 0) =
        limits.count tiers.high + limits.count tiers.middle + limits.count tiers.floor := by
  obtain ⟨hf, hm, hh, hmf, hhf, hhm⟩ := ne_of_isDescending hd
  induction limits with
  | nil => simp
  | cons x rest ih =>
    obtain ⟨hsum, hlen⟩ := ih fun y hy => ht y (List.mem_cons_of_mem _ hy)
    simp only [List.map_cons, List.sum_cons, List.count_cons, List.countP_cons, hsum, hlen,
      beq_iff_eq]
    by_cases hx : x = 0
    · simp [hx, hf.symm, hm.symm, hh.symm]
    · rcases ht x List.mem_cons_self hx with rfl | rfl | rfl
      · simp only [hhm, hhf, hx, ne_eq, not_false_eq_true, decide_true, ↓reduceIte]
        constructor
        · push_cast
          linarith
        · omega
      · simp only [hhm.symm, hmf, hx, ne_eq, not_false_eq_true, decide_true, ↓reduceIte]
        constructor
        · push_cast
          linarith
        · omega
      · simp only [hhf.symm, hmf.symm, hx, ne_eq, not_false_eq_true, decide_true, ↓reduceIte]
        constructor
        · push_cast
          linarith
        · omega

theorem exclusive_of_count (hd : tiers.isDescending = true) {limits : List Int32}
    (hh : limits.count tiers.high ≤ 1) (hm : limits.count tiers.middle ≤ 1)
    (ht : ∀ x ∈ limits, x ≠ 0 → x = tiers.high ∨ x = tiers.middle ∨ x = tiers.floor) :
    tiers.Exclusive limits := by
  refine ⟨hh, hm, ht, fun h2 => ?_⟩
  obtain ⟨hsum, hlen⟩ := sum_limits hd ht
  obtain ⟨h₁, h₂, h₃⟩ := isDescending_iff.1 hd
  rw [hsum, hlen]
  rw [hlen] at h2
  generalize limits.count tiers.high = a at *
  generalize limits.count tiers.middle = b at *
  generalize limits.count tiers.floor = c at *
  -- Whoever lacks an upper tier has the floor in its place, which is less.
  have hf : (0 : Int) ≤ c * tiers.floor.toInt :=
    Int.mul_nonneg (Int.natCast_nonneg c) (Int.le_of_lt h₁)
  obtain rfl | rfl : a = 0 ∨ a = 1 := by omega
  · obtain rfl | rfl : b = 0 ∨ b = 1 := by omega
    · push_cast
      linarith
    · push_cast
      linarith
  · obtain rfl | rfl : b = 0 ∨ b = 1 := by omega
    · push_cast
      linarith
    · push_cast
      linarith

end PowerTiers

namespace Database

/-- Whether a charge point belongs to a location: the location lists it, or its record names the
location. -/
def Belongs (db : Database) (station id : String) : Prop :=
  ∃ location, db.locations.get? id = some location ∧
    (station ∈ location.chargePoints ∨ db.named? station = some id)

theorem SameSites.belongs_iff {db db' : Database} (h : db.SameSites db') (s id : String) :
    db'.Belongs s id ↔ db.Belongs s id := by
  rw [Belongs, Belongs, h.locations, h.named]

end Database

def Registry.limitAt (r : Registry) (station : String) (id : UInt32) : Int32 :=
  (r.connector? station id).elim 0 (·.limit)

namespace Registry

variable {r : Registry} {station : String}

theorem limitAt_of_connector? {i : UInt32} {c : Connector} (h : r.connector? station i = some c) :
    r.limitAt station i = c.limit := by
  rw [limitAt, h]
  rfl

theorem limitAt_setConnector {c : Connector} {s : String} {i : UInt32} (hk : r.knows station = true)
    (hlim : r.limitAt station c.id = c.limit) :
    (r.setConnector station c).limitAt s i = r.limitAt s i := by
  rw [limitAt, connector?_setConnector hk]
  split
  · rename_i he
    rw [he.1, he.2]
    exact hlim.symm
  · rfl

theorem limitAt_replaceConnector {c c' : Connector} {s : String} {i : UInt32}
    (hc : r.connector? station c.id = some c) (hid : c'.id = c.id) (hlim : c'.limit = c.limit) :
    (r.setConnector station c').limitAt s i = r.limitAt s i := by
  apply limitAt_setConnector (knows_of_connector? hc)
  rw [hid, hlim]
  exact limitAt_of_connector? hc

end Registry

open Registry Ledger in
theorem Change.limitAt_eq {settings : Settings} {n : Nat} {l l' : Ledger}
    (hc : Change settings false n l l') (hk : l.registry.Keyed) (s : String) (i : UInt32) :
    l'.registry.limitAt s i = l.registry.limitAt s i := by
  cases hc with
  | publish | tag | samples | discard => rfl
  | enroll =>
    rw [limitAt, registry_setDatabase, registry_setRegistry, connector?_register]
    rfl
  | see | amend => exact congrArg (Option.elim · 0 (·.limit)) (connector?_setChargePoint _ s i)
  | @report _ station c c' hknows hid hcon htx hlim =>
    apply limitAt_setConnector hknows
    rw [hid, hlim, limitAt]
    cases hl : l.registry.connector? station c.id with
    | none =>
      rw [hl, Option.getD_none] at hcon
      rw [← hcon]
      rfl
    | some c₀ =>
      rw [hl, Option.getD_some] at hcon
      rw [hcon]
      rfl
  | release hcon ha hid htx hlim =>
    rw [registry_order]
    exact limitAt_replaceConnector hcon hid hlim
  | enter =>
    rw [registry_order]
    rfl
  | occupy hid ho hcon =>
    rw [registry_order]
    exact limitAt_replaceConnector hcon rfl rfl
  | displace hid ho hcon =>
    rw [registry_order, registry_publish, registry_order]
    exact limitAt_replaceConnector hcon rfl rfl
  | @close _ t t' c now hr ho hid hs hi hf hcon htx =>
    rw [registry_order]
    rw [← hk.connector _ _ _ hcon] at hcon
    exact limitAt_replaceConnector hcon rfl rfl
  | closeLoose =>
    rw [registry_order]
    rfl
  | limit hs => cases hs

theorem Changes.limitAt_eq {settings : Settings} {n : Nat} {l l' : Ledger}
    (hc : Changes settings false n l l') (hk : l.Keyed) (s : String) (i : UInt32) :
    l'.registry.limitAt s i = l.registry.limitAt s i := by
  induction hc with
  | refl => rfl
  | tail hs hstep ih =>
    exact (hstep.limitAt_eq (hs.preserve Change.keyed hk).1 s i).trans (ih hk)

namespace Ledger

open Plant Registry

/-- The invariant of the limits: they are tiers, only charge points that take profiles have any, and
no two connectors of a location have the same upper tier. -/
structure Shared (tiers : PowerTiers) (l : Ledger) : Prop where
  tier : ∀ s i, l.registry.limitAt s i ≠ 0 → l.registry.limitAt s i = tiers.high ∨
    l.registry.limitAt s i = tiers.middle ∨ l.registry.limitAt s i = tiers.floor
  smart : ∀ s i, l.registry.limitAt s i ≠ 0 → l.database.isSmart s = true
  unique : ∀ x, x = tiers.high ∨ x = tiers.middle → ∀ id s i s' i', l.database.Belongs s id →
    l.database.Belongs s' id → l.registry.limitAt s i = x → l.registry.limitAt s' i' = x →
      s = s' ∧ i = i'

theorem Shared.congr {tiers : PowerTiers} {l l' : Ledger} (h : l.Shared tiers)
    (hlim : ∀ s i, l'.registry.limitAt s i = l.registry.limitAt s i)
    (hs : l.database.SameSites l'.database) : l'.Shared tiers where
  tier s i := by
    rw [hlim]
    exact h.tier s i
  smart s i := by
    rw [hlim, hs.smart]
    exact h.smart s i
  unique x hx id s i s' i' hb hb' := by
    rw [hlim, hlim]
    exact h.unique x hx id s i s' i' ((hs.belongs_iff _ _).1 hb) ((hs.belongs_iff _ _).1 hb')

theorem mem_picks_of_granted {tiers : PowerTiers} {cs : List (String × Connector)} {a : Assignment}
    (h : a ∈ granted tiers cs) : a.2 = tiers.floor ∨
      (a.2 = tiers.high ∨ a.2 = tiers.middle) ∧ a.2 ∉ held cs :=
  PowerTiers.mem_picks (List.of_mem_zip h).2

theorem map_fst_granted (tiers : PowerTiers) (cs : List (String × Connector)) :
    (granted tiers cs).map Prod.fst = waiting cs :=
  List.map_fst_zip (Nat.le_of_eq (by simp))

theorem map_snd_granted (tiers : PowerTiers) (cs : List (String × Connector)) :
    (granted tiers cs).map Prod.snd = tiers.picks (held cs) (waiting cs).length :=
  List.map_snd_zip (Nat.le_of_eq (by simp))

theorem eq_of_granted {tiers : PowerTiers} {cs : List (String × Connector)} {a a' : Assignment}
    (h : a ∈ granted tiers cs) (h' : a' ∈ granted tiers cs) (hx : a.2 ≠ tiers.floor)
    (he : a'.2 = a.2) : a' = a := by
  have hn : (((granted tiers cs).filter (·.2 != tiers.floor)).map Prod.snd).Nodup := by
    have hp := PowerTiers.nodup_picks tiers (held cs) (waiting cs).length
    rw [← map_snd_granted, List.filter_map] at hp
    exact hp
  refine List.inj_on_of_nodup_map hn ?_ ?_ he
  · exact List.mem_filter.2 ⟨h', by simpa [he] using hx⟩
  · exact List.mem_filter.2 ⟨h, by simpa using hx⟩

/-- The limit of a connector behind the sharing of power that a charge point asks for. -/
def limitAfter (tiers : PowerTiers) (l : Ledger) (location : Location) (station s : String)
    (i : UInt32) : Int32 :=
  ((plan tiers l location station).find? (·.key = (s, i))).elim (l.registry.limitAt s i) (·.2)

theorem limitAt_assign_plan {l : Ledger} (hw : l.storage.broken = []) (hk : l.Keyed)
    (tiers : PowerTiers) (location : Location) (station s : String) (i : UInt32) :
    (assign l (plan tiers l location station)).registry.limitAt s i =
      limitAfter tiers l location station s i := by
  rw [limitAfter, limitAt, (changes_plan hw default hk tiers location station).2 s i]
  cases (plan tiers l location station).find? (·.key = (s, i)) <;> rfl

theorem limitAfter_cases (tiers : PowerTiers) (l : Ledger) (location : Location)
    (station s : String) (i : UInt32) :
    (∃ a ∈ plan tiers l location station, a.key = (s, i) ∧
      limitAfter tiers l location station s i = a.2) ∨
    (∀ a ∈ plan tiers l location station, a.key ≠ (s, i)) ∧
      limitAfter tiers l location station s i = l.registry.limitAt s i := by
  unfold limitAfter
  cases hf : (plan tiers l location station).find? (·.key = (s, i)) with
  | some a =>
    have hkey : a.key = (s, i) := by simpa using List.find?_some hf
    exact .inl ⟨a, List.mem_of_find?_eq_some hf, hkey, rfl⟩
  | none =>
    refine .inr ⟨?_, rfl⟩
    intro a ha hkey
    exact List.find?_eq_none.1 hf a ha (decide_eq_true hkey)

theorem mem_plan_of_idle (tiers : PowerTiers) {l : Ledger} {location : Location}
    {station s : String} {c : Connector}
    (hc : (s, c) ∈ smartConnectors l (site l location station)) (hidle : c.isActive = false)
    (hlim : c.limit ≠ 0) : ((s, c), 0) ∈ plan tiers l location station := by
  have hmem : (s, c) ∈ idle (smartConnectors l (site l location station)) :=
    List.mem_filter.2 ⟨hc, by simp [hidle, hlim]⟩
  exact List.mem_append_left _ (List.mem_map.2 ⟨(s, c), hmem, rfl⟩)

theorem tier_limitAfter {tiers : PowerTiers} {l : Ledger} {location : Location} {station s : String}
    {i : UInt32} (h : l.registry.limitAt s i ≠ 0 → l.registry.limitAt s i = tiers.high ∨
      l.registry.limitAt s i = tiers.middle ∨ l.registry.limitAt s i = tiers.floor)
    (hne : limitAfter tiers l location station s i ≠ 0) :
    limitAfter tiers l location station s i = tiers.high ∨
      limitAfter tiers l location station s i = tiers.middle ∨
        limitAfter tiers l location station s i = tiers.floor := by
  rcases limitAfter_cases tiers l location station s i with ⟨a, ha, -, he⟩ | ⟨-, he⟩
  · rw [he] at hne ⊢
    have hg := (mem_of_mem_assignments ha).2.resolve_left hne
    rcases mem_picks_of_granted hg with hf | ⟨hh | hm, -⟩
    · exact .inr (.inr hf)
    · exact .inl hh
    · exact .inr (.inl hm)
  · rw [he] at hne ⊢
    exact h hne

section Limits

variable {tiers : PowerTiers} {l : Ledger} {location : Location} {station : String}
  (hk : l.Keyed) (hl : l.database.locationOf? station = some location)
include hk hl

omit hk in
theorem locations_get? (hkd : l.database.Keyed) :
    l.database.locations.get? location.id = some location ∧
      l.database.named? station = some location.id := by
  obtain ⟨id, hid, hloc⟩ := Option.bind_eq_some_iff.1 hl
  have he : location.id = id := hkd.location id location hloc
  exact ⟨he ▸ hloc, he ▸ hid⟩

theorem belongs_of_mem_site {s : String} (hs : s ∈ site l location station) :
    l.database.Belongs s location.id := by
  obtain ⟨hloc, hnamed⟩ := locations_get? hl hk.2
  refine ⟨location, hloc, ?_⟩
  rcases mem_site.1 hs with h | h | ⟨-, h⟩
  · exact .inl h
  · exact .inr (h ▸ hnamed)
  · exact .inr h

theorem belongs_of_mem {e : String × Connector}
    (he : e ∈ smartConnectors l (site l location station)) :
    l.database.Belongs e.1 location.id :=
  belongs_of_mem_site hk hl ((mem_smartConnectors hk.1.connector).1 he).1

/-- A sharing of power sees every connector of the location that has a limit. -/
theorem mem_of_belongs (h : l.Shared tiers) {s : String} {i : UInt32}
    (hb : l.database.Belongs s location.id) (hlim : l.registry.limitAt s i ≠ 0) :
    ∃ c, (s, c) ∈ smartConnectors l (site l location station) ∧ c.id = i ∧
      c.limit = l.registry.limitAt s i := by
  obtain ⟨hloc, -⟩ := locations_get? hl hk.2
  have hsmart := h.smart s i hlim
  cases hc : l.registry.connector? s i with
  | none => simp [limitAt, hc] at hlim
  | some c =>
    have hid : c.id = i := hk.1.connector s i c hc
    refine ⟨c, (mem_smartConnectors hk.1.connector).2 ⟨mem_site.2 ?_, hsmart, hid ▸ hc⟩, hid,
      (limitAt_of_connector? hc).symm⟩
    obtain ⟨location', hloc', hb⟩ := hb
    obtain rfl := Option.some.inj (hloc.symm.trans hloc')
    exact hb.imp_right fun hn => .inr ⟨knows_of_connector? hc, hn⟩

theorem limitAfter_elsewhere {s : String} (hs : ¬l.database.Belongs s location.id) (i : UInt32) :
    limitAfter tiers l location station s i = l.registry.limitAt s i := by
  rcases limitAfter_cases tiers l location station s i with ⟨a, ha, hkey, -⟩ | ⟨-, he⟩
  · have hloc := belongs_of_mem hk hl (mem_of_mem_assignments ha).1
    rw [show a.1.1 = s from congrArg Prod.fst hkey] at hloc
    exact absurd hloc hs
  · exact he

theorem upper_cases (h : l.Shared tiers) {s : String} {i : UInt32} {x : Int32} (hx : x ≠ 0)
    (hb : l.database.Belongs s location.id) (hlim : limitAfter tiers l location station s i = x) :
    (l.registry.limitAt s i = x ∧ x ∈ held (smartConnectors l (site l location station))) ∨
      ∃ a ∈ granted tiers (smartConnectors l (site l location station)),
        a.key = (s, i) ∧ a.2 = x := by
  rcases limitAfter_cases tiers l location station s i with ⟨a, ha, hkey, he⟩ | ⟨hno, he⟩
  · rw [he] at hlim
    have hg := (mem_of_mem_assignments ha).2
    exact .inr ⟨a, hg.resolve_left fun h0 => hx (hlim.symm.trans h0), hkey, hlim⟩
  · rw [he] at hlim
    obtain ⟨c, hc, hid, hclim⟩ := mem_of_belongs hk hl h hb (hlim ▸ hx)
    rw [hlim] at hclim
    have ha : c.isActive = true := by
      by_contra hidle
      have hmem := mem_plan_of_idle tiers hc (by simpa using hidle) (hclim ▸ hx)
      exact hno _ hmem (Prod.ext rfl hid)
    have hheld : x ∈ (((smartConnectors l (site l location station)).filter (·.2.isActive)).map
        (·.2.limit)) := List.mem_map.2 ⟨(s, c), List.mem_filter.2 ⟨hc, ha⟩, hclim⟩
    exact .inl ⟨hlim, List.mem_filter.2 ⟨hheld, by simpa using hx⟩⟩

omit hl in
theorem smart_limitAfter (h : l.Shared tiers) {s : String} {i : UInt32}
    (hne : limitAfter tiers l location station s i ≠ 0) : l.database.isSmart s = true := by
  rcases limitAfter_cases tiers l location station s i with ⟨a, ha, hkey, -⟩ | ⟨-, he⟩
  · have hmem := (mem_smartConnectors hk.1.connector).1 (mem_of_mem_assignments ha).1
    rw [← show a.1.1 = s from congrArg Prod.fst hkey]
    exact hmem.2.1
  · rw [he] at hne
    exact h.smart s i hne

theorem unique_limitAfter (h : l.Shared tiers) (hd : tiers.isDescending = true) {x : Int32}
    (hx : x = tiers.high ∨ x = tiers.middle) {s s' : String} {i i' : UInt32}
    (hb : l.database.Belongs s location.id) (hb' : l.database.Belongs s' location.id)
    (hlim : limitAfter tiers l location station s i = x)
    (hlim' : limitAfter tiers l location station s' i' = x) : s = s' ∧ i = i' := by
  obtain ⟨-, hm, hh, hmf, hhf, -⟩ := PowerTiers.ne_of_isDescending hd
  have hx0 : x ≠ 0 := by rcases hx with rfl | rfl <;> assumption
  have hxf : x ≠ tiers.floor := by rcases hx with rfl | rfl <;> assumption
  -- What is held is not granted.
  have hdisjoint {a : Assignment}
      (ha : a ∈ granted tiers (smartConnectors l (site l location station))) (hax : a.2 = x) :
      x ∉ held (smartConnectors l (site l location station)) := by
    rcases mem_picks_of_granted ha with he | ⟨-, hn⟩
    · exact absurd (hax.symm.trans he) hxf
    · exact hax ▸ hn
  rcases upper_cases hk hl h hx0 hb hlim with ⟨hold, hheld⟩ | ⟨a, ha, hkey, hax⟩ <;>
    rcases upper_cases hk hl h hx0 hb' hlim' with ⟨hold', hheld'⟩ | ⟨a', ha', hkey', hax'⟩
  · exact h.unique x hx _ s i s' i' hb hb' hold hold'
  · exact absurd hheld (hdisjoint ha' hax')
  · exact absurd hheld' (hdisjoint ha hax)
  · obtain rfl := eq_of_granted ha ha' (hax ▸ hxf) (hax'.trans hax.symm)
    exact Prod.mk.inj (hkey.symm.trans hkey')

end Limits

/-- A sharing of power keeps the invariant, if no charge point belongs to two locations. -/
theorem Shared.sharesOut {tiers : PowerTiers} {station : String} {l l' : Ledger}
    (h : l.Shared tiers) (hs : SharesOut tiers station l l') (hd : tiers.isDescending = true)
    (hw : l.storage.broken = []) (hk : l.Keyed) (hsame : l.database.SameSites l'.database)
    (hone : ∀ s id id', l.database.Belongs s id → l.database.Belongs s id' → id = id') :
    l'.Shared tiers := by
  cases hs with
  | nothing hq =>
    have hr : l'.registry = l.registry := by rw [registry_of_quiet hq, registry_quiet]
    exact h.congr (fun _ _ => by rw [hr]) hsame
  | limits location hl hq =>
    have hlim (s : String) (i : UInt32) :
        l'.registry.limitAt s i = limitAfter tiers l location station s i := by
      rw [registry_of_quiet hq, registry_quiet]
      exact limitAt_assign_plan hw hk tiers location station s i
    refine
      { tier := fun s i hne => ?_
        smart := fun s i hne => ?_
        unique := fun x hx id s i s' i' hb hb' hlx hlx' => ?_ }
    · rw [hlim] at hne ⊢
      exact tier_limitAfter (h.tier s i) hne
    · rw [hlim] at hne
      rw [hsame.smart]
      exact smart_limitAfter hk h hne
    · rw [hsame.belongs_iff] at hb hb'
      rw [hlim] at hlx hlx'
      by_cases hid : id = location.id
      · subst hid
        exact unique_limitAfter hk hl h hd hx hb hb' hlx hlx'
      · rw [limitAfter_elsewhere hk hl fun hloc => hid (hone _ _ _ hb hloc)] at hlx
        rw [limitAfter_elsewhere hk hl fun hloc => hid (hone _ _ _ hb' hloc)] at hlx'
        exact h.unique x hx id s i s' i' hb hb' hlx hlx'

/-- The connectors at a location, by charge point and number. -/
def connectorsAt (l : Ledger) (location : Location) : List ((String × UInt32) × Connector) :=
  (l.registry.stations.entries.filter fun e => e.1 ∈ location.chargePoints ∨
    l.database.named? e.1 = some location.id).flatMap fun e =>
      e.2.connectors.entries.map fun c => ((e.1, c.1), c.2)

theorem mem_connectorsAt {l : Ledger} {location : Location} {s : String} {i : UInt32}
    {c : Connector} (h : ((s, i), c) ∈ l.connectorsAt location) :
    (s ∈ location.chargePoints ∨ l.database.named? s = some location.id) ∧
      l.registry.connector? s i = some c := by
  obtain ⟨e, he, hc⟩ := List.mem_flatMap.1 h
  obtain ⟨he, hb⟩ := List.mem_filter.1 he
  obtain ⟨e', he', heq⟩ := List.mem_map.1 hc
  obtain ⟨hk, rfl⟩ := Prod.mk.inj heq
  obtain ⟨rfl, rfl⟩ := Prod.mk.inj hk
  exact ⟨by simpa using hb, by
    rw [connector?, Table.mem_entries_iff.1 he, Option.bind_some, Table.mem_entries_iff.1 he']⟩

theorem nodup_connectorsAt (l : Ledger) (location : Location) :
    ((l.connectorsAt location).map Prod.fst).Nodup := by
  have hkeys : (l.connectorsAt location).map Prod.fst =
      (l.registry.stations.entries.filter fun e => e.1 ∈ location.chargePoints ∨
        l.database.named? e.1 = some location.id).flatMap fun e =>
          e.2.connectors.keys.map (e.1, ·) := by
    simp only [connectorsAt, Table.keys, List.map_flatMap, List.map_map]
    rfl
  rw [hkeys]
  apply nodup_flatMap_pair
  · exact l.registry.stations.keys_nodup.sublist (List.filter_sublist.map _)
  · intro e _
    exact e.2.connectors.keys_nodup

theorem count_map_le_one {α κ β : Type} [DecidableEq β] {f : α → β} {g : α → κ} {l : List α} {x : β}
    (hn : (l.map g).Nodup) (h : ∀ a ∈ l, ∀ b ∈ l, f a = x → f b = x → g a = g b) :
    (l.map f).count x ≤ 1 := by
  induction l with
  | nil => simp
  | cons a rest ih =>
    obtain ⟨ha, hr⟩ := List.nodup_cons.1 hn
    have hrest := ih hr fun b hb c hc =>
      h b (List.mem_cons_of_mem _ hb) c (List.mem_cons_of_mem _ hc)
    rw [List.map_cons, List.count_cons]
    by_cases hx : f a = x
    · have hzero : (rest.map f).count x = 0 := by
        apply List.count_eq_zero.2
        intro hm
        obtain ⟨b, hb, hbx⟩ := List.mem_map.1 hm
        exact ha (List.mem_map.2 ⟨b, hb,
          h b (List.mem_cons_of_mem _ hb) a List.mem_cons_self hbx hx⟩)
      rw [hzero]
      split <;> omega
    · rw [if_neg (by simpa using hx)]
      exact hrest

theorem Shared.exclusive {tiers : PowerTiers} {l : Ledger} (h : l.Shared tiers)
    (hd : tiers.isDescending = true) {location : Location}
    (hl : l.database.locations.get? location.id = some location) :
    tiers.Exclusive ((l.connectorsAt location).map (·.2.limit)) := by
  obtain ⟨-, hm, hh, -⟩ := PowerTiers.ne_of_isDescending hd
  have hat {e : (String × UInt32) × Connector} (he : e ∈ l.connectorsAt location) :
      l.database.Belongs e.1.1 location.id ∧ l.registry.limitAt e.1.1 e.1.2 = e.2.limit := by
    obtain ⟨hb, hc⟩ := mem_connectorsAt he
    exact ⟨⟨location, hl, hb⟩, by rw [limitAt, hc]; rfl⟩
  have hcount (x : Int32) (hx : x = tiers.high ∨ x = tiers.middle) :
      ((l.connectorsAt location).map (·.2.limit)).count x ≤ 1 := by
    apply count_map_le_one (nodup_connectorsAt l location)
    intro e he e' he' hex hex'
    obtain ⟨hb, hlim⟩ := hat he
    obtain ⟨hb', hlim'⟩ := hat he'
    obtain ⟨hs, hi⟩ := h.unique x hx _ _ _ _ _ hb hb' (hlim.trans hex) (hlim'.trans hex')
    exact Prod.ext hs hi
  apply PowerTiers.exclusive_of_count hd (hcount _ (.inl rfl)) (hcount _ (.inr rfl))
  intro x hx hne
  obtain ⟨e, he, rfl⟩ := List.mem_map.1 hx
  obtain ⟨-, hlim⟩ := hat he
  have ht := h.tier e.1.1 e.1.2 (hlim ▸ hne)
  rwa [hlim] at ht

end Ledger

namespace Hub

open Ledger

variable {h : Hub} {tiers : PowerTiers}

theorem shared_handlerStep (now : Timestamp) (w : HandlerStep) (ht : h.settings.tiers = some tiers)
    (hd : tiers.isDescending = true) (hw : h.plant.ledger.storage.broken = [])
    (hk : h.plant.ledger.Keyed) (htr : h.plant.ledger.registry.Tracks h.plant.ledger.database)
    (hone : ∀ s id id', h.plant.ledger.database.Belongs s id →
      h.plant.ledger.database.Belongs s id' → id = id') (hs : h.plant.ledger.Shared tiers) :
    (h.handlerStep now w).2.plant.ledger.Shared tiers := by
  have hsame := ((changes_handlerStep now hw hk w).tracks hk htr).2
  cases w with
  | answer station r =>
    have hc : Changes h.settings false _ h.plant.ledger.quiet
        (h.handlerStep now (.answer station r)).2.plant.ledger.quiet :=
      changes_answer now station hw hk r
    exact hs.congr (hc.limitAt_eq hk) hsame
  | followUp station r =>
    exact hs.sharesOut (sharesOut_followUp now hw ht station r) hd hw hk hsame hone
  | balance station => exact hs.sharesOut (sharesOut_balance now hw ht station) hd hw hk hsame hone

theorem shared_runHandlers (ws : List (Timestamp × HandlerStep)) (ht : h.settings.tiers = some tiers)
    (hd : tiers.isDescending = true) (hw : h.plant.ledger.storage.broken = [])
    (hk : h.plant.ledger.Keyed) (htr : h.plant.ledger.registry.Tracks h.plant.ledger.database)
    (hone : ∀ s id id', h.plant.ledger.database.Belongs s id →
      h.plant.ledger.database.Belongs s id' → id = id') (hs : h.plant.ledger.Shared tiers) :
    (h.runHandlers ws).2.plant.ledger.Shared tiers := by
  induction ws generalizing h with
  | nil => exact hs
  | cons w rest ih =>
    have hc := changes_handlerStep w.1 hw hk w.2
    obtain ⟨htr', hsame⟩ := hc.tracks hk htr
    refine ih (h := (h.handlerStep w.1 w.2).2) ((settings_handlerStep w.1 w.2).symm ▸ ht)
      (hc.broken.trans hw)
      (hc.preserve Change.keyed hk) htr' (fun s id id' hb hb' => hone s id id' ?_ ?_)
      (shared_handlerStep w.1 w.2 ht hd hw hk htr hone hs)
    · exact (hsame.belongs_iff s id).1 hb
    · exact (hsame.belongs_iff s id').1 hb'

end Hub

theorem belongs_depot {s id : String} (h : Database.depot.Belongs s id) : id = "depot" := by
  obtain ⟨location, hl, -⟩ := h
  simp [Database.depot, Database.putConnector, Database.putTransaction, Database.putChargePoint,
    Table.ofList, Table.get?_insert] at hl
  exact hl.1

theorem limit_depot {s : String} {i : UInt32} {c : Connector}
    (h : Ledger.depot.registry.connector? s i = some c) : c.limit = 0 := by
  have hall : ∀ e ∈ Ledger.depot.registry.stations.entries, ∀ e' ∈ e.2.connectors.entries,
      e'.2.limit = 0 := by decide +kernel
  rw [Registry.connector?] at h
  obtain ⟨st, hst, hc⟩ := Option.bind_eq_some_iff.1 h
  exact hall _ (Table.mem_entries_iff.2 hst) _ (Table.mem_entries_iff.2 hc)

/-- On a run from a load without limits, the tiers at a location are shared out exclusively. -/
theorem exclusive_runHandlers {db : Database} (hk : db.Keyed)
    (hone : ∀ s id id', db.Belongs s id → db.Belongs s id' → id = id') :
    ∃ l, Ledger.load { database := db } = .ok l ∧
      ((∀ s i c, l.registry.connector? s i = some c → c.limit = 0) →
        ∀ h : Hub, h.plant.ledger = l →
        ∀ tiers, h.settings.tiers = some tiers → tiers.isDescending = true →
        ∀ ws id location,
          (h.runHandlers ws).2.plant.ledger.database.locations.get? id = some location →
          tiers.Exclusive
            (((h.runHandlers ws).2.plant.ledger.connectorsAt location).map (·.2.limit))) := by
  obtain ⟨l, hl, hs, hloads⟩ := Ledger.load_ok hk
  refine ⟨l, hl, ?_⟩
  rintro hzero h rfl tiers ht hd ws id location hloc
  have hlim (s : String) (i : UInt32) : h.plant.ledger.registry.limitAt s i = 0 := by
    rw [Registry.limitAt]
    cases hc : h.plant.ledger.registry.connector? s i with
    | none => rfl
    | some c => exact hzero s i c hc
  have hdb : h.plant.ledger.database = db := congrArg Storage.database hs
  have hw : h.plant.ledger.storage.broken = [] := by rw [hs]
  have hkey : h.plant.ledger.Keyed := ⟨hloads.keyed hk, hdb ▸ hk⟩
  obtain ⟨-, hm, hh, -⟩ := PowerTiers.ne_of_isDescending hd
  have hshared : h.plant.ledger.Shared tiers :=
    { tier := fun s i hne => absurd (hlim s i) hne
      smart := fun s i hne => absurd (hlim s i) hne
      unique := fun x hx id s i s' i' _ _ hx' _ => by
        rw [hlim] at hx'
        rcases hx with rfl | rfl
        · exact absurd hx'.symm hh
        · exact absurd hx'.symm hm }
  have hrun := Hub.changes_runHandlers hw hkey ws
  have hlast := Hub.shared_runHandlers ws ht hd hw hkey (hdb ▸ hloads.tracks) (hdb ▸ hone) hshared
  apply hlast.exclusive hd
  have hid : location.id = id := (hrun.preserve Change.keyed hkey).2.location id location hloc
  exact hid ▸ hloc

theorem exclusive_runHandlers_depot : PowerTiers.Exclusive ⟨32, 16, 6⟩
    (((Hub.depot.runHandlers (HandlerStep.depot .epoch)).2.plant.ledger.connectorsAt
      ⟨"depot", "Depot", 32, 64, ["north"]⟩).map (·.2.limit)) := by
  obtain ⟨l, hl, hrun⟩ := exclusive_runHandlers Database.keyed_depot
    fun s id id' h h' => (belongs_depot h).trans (belongs_depot h').symm
  obtain rfl : Ledger.depot = l := Except.ok.inj (Ledger.load_depot.symm.trans hl)
  exact hrun (fun s i c hc => limit_depot hc) .depot rfl _ rfl (by decide) (HandlerStep.depot .epoch)
    "depot" _ (by decide +kernel)

end CentralSystem
