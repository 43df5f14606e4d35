import CentralSystem.Config
import CentralSystem.Proofs.Allotment
import CentralSystem.Proofs.Sharing
import Mathlib.Algebra.BigOperators.Group.List.Basic

namespace CentralSystem

namespace Plant

theorem total_eq_sum (limits : List Int32) : total limits = (limits.map Int32.toInt).sum := by
  induction limits with
  | nil => rfl
  | cons x rest ih => rw [total_cons, ih, List.map_cons, List.sum_cons]

theorem total_perm {limits limits' : List Int32} (h : limits.Perm limits') :
    total limits = total limits' := by
  rw [total_eq_sum, total_eq_sum]
  exact (h.map Int32.toInt).sum_eq

end Plant

def Notice.isOverload : Notice → Bool
  | siteOverLimit .. => true
  | _ => false

/-- What is noted where the limits at a location add up to this sum. -/
def Location.overload (location : Location) (sum : Int32) : List Notice :=
  if 0 < location.powerLimit ∧ location.powerLimit < sum then
    [.siteOverLimit location.id sum location.powerLimit]
  else []

namespace Ledger

open Plant

def overloads (l : Ledger) : List Notice := l.journal.filter Notice.isOverload

theorem overloads_note (l : Ledger) (n : Notice) :
    (l.note n).overloads = l.overloads ++ [n].filter Notice.isOverload :=
  List.filter_append ..

theorem overloads_note_of_not (l : Ledger) {n : Notice} (h : n.isOverload = false) :
    (l.note n).overloads = l.overloads := by
  rw [overloads_note, List.filter_singleton, h]
  exact List.append_nil _

/-- The limits of the active connectors that take part when this charge point asks for a sharing of
power. -/
def drawn (l : Ledger) (location : Location) (station : String) : List Int32 :=
  ((smartConnectors l (site l location station)).filter (·.2.isActive)).map (·.2.limit)

theorem drawn_congr {l l' : Ledger} (hr : l'.registry = l.registry)
    (hd : l'.database = l.database) (location : Location) (station : String) :
    l'.drawn location station = l.drawn location station := by
  unfold drawn smartConnectors site
  rw [hr, hd]

end Ledger

namespace Plant

open Ledger

section Overloads

variable {l : Ledger} {p : Plant}

theorem overloads_setLimit (station : String) (c : Connector) (limit : Int32) :
    (setLimit l station c limit).overloads = l.overloads := by
  simp only [setLimit, write]
  split
  · rfl
  · exact overloads_note_of_not _ rfl

theorem overloads_assign (as : List Assignment) : (assign l as).overloads = l.overloads := by
  induction as generalizing l with
  | nil => rfl
  | cons a rest ih => exact ih.trans (overloads_setLimit ..)

theorem overloads_sendGrant (now : Timestamp) (g : Grant) :
    (sendGrant now p g).ledger.overloads = p.ledger.overloads := by
  unfold sendGrant
  split
  · unfold command
    split
    · rfl
    · exact overloads_note_of_not _ rfl
  · exact overloads_note_of_not _ rfl

theorem overloads_foldl_sendGrant (now : Timestamp) (grants : List Grant) :
    (grants.foldl (sendGrant now) p).ledger.overloads = p.ledger.overloads := by
  induction grants generalizing p with
  | nil => rfl
  | cons g rest ih => exact ih.trans (overloads_sendGrant now g)

theorem overloads_checkTotal (location : Location) (sum : Int32) :
    (p.checkTotal location sum).ledger.overloads =
      p.ledger.overloads ++ location.overload sum := by
  rw [checkTotal, Location.overload]
  split
  · exact overloads_note ..
  · rw [List.append_nil]

theorem overloads_announce (now : Timestamp) (location : Location) (grants : List Grant)
    (held : List Int32) : (p.announce now location grants held).2.ledger.overloads =
      p.ledger.overloads ++ (addUp? held).elim [] location.overload := by
  rw [announce]
  cases addUp? held with
  | none => exact (overloads_note_of_not _ rfl).trans (List.append_nil _).symm
  | some sum => exact (overloads_foldl_sendGrant ..).trans (overloads_checkTotal ..)

theorem overloads_shareOut (tiers : PowerTiers) (now : Timestamp) (location : Location)
    (cs : List (String × Connector)) : (p.shareOut tiers now location cs).2.ledger.overloads =
      p.ledger.overloads ++ (addUp? (heldAfter tiers cs)).elim [] location.overload := by
  rw [shareOut_eq, overloads_announce, overloads_assign]

end Overloads

section Drawn

variable (tiers : PowerTiers) {l : Ledger} (location : Location) (station : String) (hk : l.Keyed)
include hk

theorem smartConnectors_assign :
    (smartConnectors (assign l (plan tiers l location station))
      (site (assign l (plan tiers l location station)) location station)).Perm
    ((smartConnectors l (site l location station)).map fun e =>
      (e.1, { e.2 with limit := limitAfter tiers l location station e.1 e.2.id })) := by
  have hcon (s : String) (i : UInt32) :
      (assign l (plan tiers l location station)).registry.connector? s i =
        (l.registry.connector? s i).map fun c =>
          { c with limit := limitAfter tiers l location station s i } :=
    connector?_assign hk s i
  have hkey : ∀ s i c, (assign l (plan tiers l location station)).registry.connector? s i =
      some c → c.id = i := by
    intro s i c hc
    rw [hcon] at hc
    obtain ⟨c₀, hc₀, rfl⟩ := Option.map_eq_some_iff.1 hc
    exact hk.1.connector s i c₀ hc₀
  refine (List.perm_ext_iff_of_nodup ?_ ?_).2 fun e => ?_
  · exact .of_map _ (nodup_smartConnectors hkey (Table.keys_nodup _))
  · refine .of_map connectorKey ?_
    rw [List.map_map]
    exact nodup_smartConnectors hk.1.connector (Table.keys_nodup _)
  · rw [mem_smartConnectors_site hkey, (limitsOnly_assign _).takesPart_iff, hcon, List.mem_map]
    constructor
    · rintro ⟨hs, hc⟩
      obtain ⟨c₀, hc₀, he⟩ := Option.map_eq_some_iff.1 hc
      refine ⟨(e.1, c₀), mem_smartConnectors_of_takesPart hk hs hc₀, ?_⟩
      rw [hk.1.connector _ _ _ hc₀]
      exact Prod.ext rfl he
    · rintro ⟨e₀, he₀, rfl⟩
      obtain ⟨hs, hc⟩ := (mem_smartConnectors_site hk.1.connector).1 he₀
      exact ⟨hs, by rw [hc]; rfl⟩

/-- What is drawn behind an assignment are the limits that stay and the tiers that are picked. -/
theorem drawn_assign : ((assign l (plan tiers l location station)).drawn location station).Perm
    (heldAfter tiers (smartConnectors l (site l location station))) := by
  have hstays {e : String × Connector} (he : e ∈ smartConnectors l (site l location station))
      (hon : e.2.isActive = true) (hne : e.2.limit ≠ 0) :
      limitAfter tiers l location station e.1 e.2.id = e.2.limit :=
    limitAfter_of_active hk ((mem_smartConnectors_site hk.1.connector).1 he).2 hon hne
  have hpicked {a : Assignment}
      (ha : a ∈ granted tiers (smartConnectors l (site l location station))) :
      limitAfter tiers l location station a.1.1 a.1.2.id = a.2 :=
    limitAfter_of_mem hk (List.mem_append_right _ ha)
  have hassigned := ((smartConnectors_assign tiers location station hk).filter
    (·.2.isActive)).map (·.2.limit)
  rw [List.filter_map, List.map_map] at hassigned
  rw [drawn]
  generalize smartConnectors l (site l location station) = cs at hassigned hstays hpicked ⊢
  refine hassigned.trans ?_
  -- Those that are active hold a limit already or wait for one.
  have hsplit := (List.filter_append_perm (·.2.limit != 0) (cs.filter (·.2.isActive))).map fun e =>
    limitAfter tiers l location station e.1 e.2.id
  rw [List.map_append] at hsplit
  have hheld : ((cs.filter (·.2.isActive)).filter (·.2.limit != 0)).map
      (fun e => limitAfter tiers l location station e.1 e.2.id) = held cs := by
    rw [held, List.filter_map]
    refine List.map_congr_left fun e he => ?_
    obtain ⟨hmem, hne⟩ := List.mem_filter.1 he
    obtain ⟨hmem, hon⟩ := List.mem_filter.1 hmem
    exact hstays hmem hon (by simpa using hne)
  have hwaiting : ((cs.filter (·.2.isActive)).filter (!·.2.limit != 0)).map
      (fun e => limitAfter tiers l location station e.1 e.2.id) =
        tiers.picks (held cs) (waiting cs).length := by
    have hwaits : (cs.filter (·.2.isActive)).filter (!·.2.limit != 0) = waiting cs := by
      simp only [waiting, bne, Bool.not_not]
    rw [hwaits, ← map_snd_granted, ← map_fst_granted tiers, List.map_map]
    exact List.map_congr_left fun a ha => hpicked ha
  rw [hheld, hwaiting] at hsplit
  exact hsplit.symm

end Drawn

theorem drawn_shareOut {p : Plant} (hk : p.ledger.Keyed) (tiers : PowerTiers) (now : Timestamp)
    (location : Location) (station : String) :
    ((p.shareOut tiers now location
      (smartConnectors p.ledger (site p.ledger location station))).2.ledger.drawn
        location station).Perm
    (heldAfter tiers (smartConnectors p.ledger (site p.ledger location station))) := by
  rw [drawn_congr (registry_shareOut ..) (database_shareOut ..)]
  exact drawn_assign tiers location station hk

theorem overload_eq_iff {location : Location} {sum : Int32} :
    location.overload sum = [.siteOverLimit location.id sum location.powerLimit] ↔
      0 < location.powerLimit.toInt ∧ location.powerLimit.toInt < sum.toInt := by
  have hlt : (0 < location.powerLimit ∧ location.powerLimit < sum) ↔
      0 < location.powerLimit.toInt ∧ location.powerLimit.toInt < sum.toInt := by
    rw [Int32.lt_iff_toInt_lt, Int32.lt_iff_toInt_lt, Int32.toInt_zero]
  rw [Location.overload, ← hlt]
  split
  · next h => exact iff_of_true rfl h
  · next h => exact iff_of_false nofun h

theorem total_bounds {limits : List Int32} {high : Int32}
    (h : ∀ x ∈ limits, 0 ≤ x.toInt ∧ x.toInt ≤ high.toInt) :
    0 ≤ total limits ∧ total limits ≤ limits.length * high.toInt := by
  induction limits with
  | nil => simp
  | cons x rest ih =>
    obtain ⟨hx, hrest⟩ := List.forall_mem_cons.1 h
    obtain ⟨hlo, hhi⟩ := ih hrest
    rw [total_cons, List.length_cons, Nat.cast_succ, Int.add_mul, Int.one_mul]
    omega

theorem total_nonneg {limits : List Int32} (h : ∀ x ∈ limits, 0 ≤ x.toInt) : 0 ≤ total limits :=
  (@total_bounds limits Int32.maxValue fun x hx => ⟨h x hx, Int.le_of_lt_add_one x.toInt_lt⟩).1

/-- Where no limit is below zero, the sums on the way are no higher than the last one. -/
theorem addsUp_iff_of_nonneg {limits : List Int32} (h : ∀ x ∈ limits, 0 ≤ x.toInt) :
    AddsUp limits ↔ total limits < 2 ^ 31 := by
  refine ⟨fun hadds => (hadds limits List.prefix_rfl).2, ?_⟩
  rintro hlt first ⟨later, rfl⟩
  have hfirst := total_nonneg fun x hx => h x (List.mem_append_left later hx)
  have hlater := total_nonneg fun x hx => h x (List.mem_append_right first hx)
  have hsum : total (first ++ later) = total first + total later := by
    rw [total_eq_sum, total_eq_sum, total_eq_sum, List.map_append, List.sum_append]
  omega

/-- A sharing of power adds up what is drawn behind it, and notes the sum if the site may not draw as
much. If some sum on the way has no room in 32 bits, there is no such notice, and nobody is told of
the limits. No sum lacks room if no limit exceeds the highest tier and so many times this tier has
room. -/
theorem overloads_checkPowerLimit {p : Plant} (hk : p.ledger.Keyed)
    (hcp : p.ledger.storage.Works .getChargePoint) (hl : p.ledger.storage.Works .getLocation)
    {location : Location} {station : String}
    (hloc : p.ledger.database.locationOf? station = some location) (tiers : PowerTiers)
    (now : Timestamp) :
    ∃ result q, p.checkPowerLimit tiers now station = .ok (result, q) ∧
      let limits := q.ledger.drawn location station
      let addends := heldAfter tiers (smartConnectors p.ledger (site p.ledger location station))
      addends.Perm limits ∧
      (AddsUp addends → result.isSome = true ∧ ∃ sum : Int32, sum.toInt = total limits ∧
        q.ledger.overloads = p.ledger.overloads ++ location.overload sum ∧
        (location.overload sum = [.siteOverLimit location.id sum location.powerLimit] ↔
          0 < location.powerLimit.toInt ∧ location.powerLimit.toInt < total limits)) ∧
      (¬AddsUp addends → result = none ∧ q.ledger.overloads = p.ledger.overloads ∧
        q.switchboard = p.switchboard) ∧
      ((∀ x ∈ limits, 0 ≤ x.toInt) → (AddsUp addends ↔ total limits < 2 ^ 31)) ∧
      ((∀ x ∈ limits, 0 ≤ x.toInt ∧ x.toInt ≤ tiers.high.toInt) →
        limits.length * tiers.high.toInt < 2 ^ 31 → AddsUp addends) := by
  have hcheck := checkPowerLimit_of_works hcp hl hloc tiers now
  have hover := overloads_shareOut (p := p) tiers now location
    (smartConnectors p.ledger (site p.ledger location station))
  have hresult := shareOut_fst (p := p) tiers now location
    (smartConnectors p.ledger (site p.ledger location station))
  have huntold (h : ¬AddsUp (heldAfter tiers
      (smartConnectors p.ledger (site p.ledger location station)))) :=
    untold_shareOut (p := p) h now location
  have hassigned := drawn_shareOut hk tiers now location station
  generalize p.shareOut tiers now location
    (smartConnectors p.ledger (site p.ledger location station)) = r at *
  obtain ⟨result, q⟩ := r
  refine ⟨result, q, hcheck, ?_⟩
  dsimp only at hover hresult huntold ⊢
  unfold announced at hresult
  generalize heldAfter tiers (smartConnectors p.ledger (site p.ledger location station)) = addends
    at hover hresult huntold hassigned ⊢
  generalize q.ledger.drawn location station = limits at hassigned ⊢
  have htotal := total_perm hassigned
  have hsign (h : ∀ x ∈ limits, 0 ≤ x.toInt) : AddsUp addends ↔ total limits < 2 ^ 31 := by
    rw [htotal]
    exact addsUp_iff_of_nonneg fun x hx => h x (hassigned.mem_iff.2 hx)
  refine ⟨hassigned.symm, fun hadds => ?_, fun hadds => ?_, hsign, fun hbounds hfew => ?_⟩
  · obtain ⟨sum, hsum⟩ := exists_addUp?_eq hadds
    rw [hsum] at hresult hover
    have hexact : sum.toInt = total limits := (addUp?_eq_some_iff.1 hsum).2.trans htotal.symm
    exact ⟨by rw [hresult]; rfl, sum, hexact, hover, hexact ▸ overload_eq_iff⟩
  · rw [addUp?_eq_none_iff.2 hadds] at hover
    exact ⟨(huntold hadds).1, hover.trans (List.append_nil _), (huntold hadds).2⟩
  · have hle := total_bounds hbounds
    exact (hsign fun x hx => (hbounds x hx).1).2 (by omega)

end Plant

theorem Plant.overloads_checkPowerLimit_busyDepot :
    ∃ q, busyDepot.checkPowerLimit ⟨32, 16, 6⟩ .epoch "south" =
        .ok (some [⟨"north", 1, 7, 16⟩], q) ∧
      total (q.ledger.drawn ⟨"depot", "Depot", 32, 64, ["north"]⟩ "south") = 48 ∧
      q.ledger.overloads = busyDepot.ledger.overloads := by
  have hloc : busyDepot.ledger.database.locationOf? "south" =
      some ⟨"depot", "Depot", 32, 64, ["north"]⟩ := by decide +kernel
  obtain ⟨result, q, hq, -, htold, -⟩ := overloads_checkPowerLimit keyed_busyDepot
    (by decide +kernel) (by decide +kernel) hloc ⟨32, 16, 6⟩ .epoch
  have hrun : (busyDepot.checkPowerLimit ⟨32, 16, 6⟩ .epoch "south").toOption.map
      (fun r => (r.1, total (r.2.ledger.drawn ⟨"depot", "Depot", 32, 64, ["north"]⟩ "south"))) =
        some (some [⟨"north", 1, 7, 16⟩], 48) := by decide +kernel
  rw [hq] at hrun
  obtain ⟨rfl, htotal⟩ := Prod.mk.inj (Option.some.inj hrun)
  obtain ⟨-, sum, hsum, hover, hright⟩ := htold (by decide +kernel)
  dsimp only at htotal
  rw [htotal] at hright
  have hnone : ¬(0 < (64 : Int32).toInt ∧ (64 : Int32).toInt < 48) := by decide
  refine ⟨q, hq, htotal, ?_⟩
  rw [hover, Location.overload, if_neg, List.append_nil]
  intro h
  exact hnone (hright.1 (if_pos h))

def Config.boundless : Config where
  tiers := ⟨2147483647, 2147483646, 2147483645⟩
  autoRegisterTags := true
  locations := [⟨"depot", "Depot", 32, 1000, ["north"]⟩]
  chargePoints := [{ id := "north", smartCharging := true }]

def Ledger.boundless : Ledger :=
  (Ledger.load { database := Config.boundless.database }).toOption.getD default

def Hub.boundless : Hub where
  settings := Config.boundless.settings
  plant := { ledger := .boundless, switchboard := {} }

theorem Hub.start_boundless :
    Hub.start Config.boundless.settings { database := Config.boundless.database } 0 =
      .ok .boundless := by
  have hload : Ledger.load { database := Config.boundless.database } = .ok .boundless := by
    decide +kernel
  rw [start, hload]
  rfl

/-- A second connector that starts to charge takes the sum out of its range. What is noted of the
load is that of the first one alone, and the second one has a limit that it is not told of. -/
theorem Hub.overload_is_missed :
    let location : Location := ⟨"depot", "Depot", 32, 1000, ["north"]⟩
    let one := (boundless.runSteps [.connect "north", .starts 1 "1"]).plant.ledger
    let both := (boundless.runSteps [.connect "north", .starts 1 "1", .starts 1 "2"]).plant.ledger
    Config.boundless.validate = .ok Config.boundless ∧
      Hub.start Config.boundless.settings { database := Config.boundless.database } 0 =
        .ok boundless ∧
      both.database.locationOf? "north" = some location ∧
      both.drawn location "north" = [2147483647, 2147483646] ∧
      Plant.total (both.drawn location "north") = 4294967293 ∧
      ¬Plant.AddsUp (both.drawn location "north") ∧
      one.overloads = [.siteOverLimit "depot" 2147483647 1000] ∧
      both.overloads = one.overloads ∧ both.journal.getLast? = some .addOverflow := by
  refine ⟨by decide +kernel, start_boundless, ?_⟩
  decide +kernel

end CentralSystem
