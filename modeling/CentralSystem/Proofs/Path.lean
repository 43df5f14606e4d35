import CentralSystem.Handshake
import Mathlib.Data.List.DropRight
import Mathlib.Data.Set.Subsingleton

namespace CentralSystem.Handshake

/-- What can stand for a station in a path. -/
structure IsStation (id : String) : Prop where
  notEmpty : id ≠ ""
  noSlash : '/' ∉ id.toList

def isSlash (c : Char) : Bool := c == '/'

def slashes (n : Nat) : List Char := List.replicate n '/'

def area : List Char := ['o', 'c', 'p', 'p', '/']

/-- The paths that name a station: those in the area, and those without it. A path is in the area
as soon as a slash stands behind `ocpp`, so that a station of this name has no slash behind it. -/
inductive Names (path id : String) : Prop
  | inArea (hid : IsStation id) (before between behind : Nat)
      (h : path.toList = slashes before ++ (area ++ (slashes between ++ (id.toList ++
        slashes behind))))
  | plain (hid : IsStation id) (before behind : Nat)
      (h : path.toList = slashes before ++ (id.toList ++ slashes behind))
      (harea : id = "ocpp" → behind = 0)

section Slashes

variable {cs : List Char}

theorem eq_slashes (h : ∀ c ∈ cs, isSlash c = true) : cs = slashes cs.length :=
  List.eq_replicate_iff.2 ⟨rfl, fun c hc => by simpa [isSlash] using h c hc⟩

theorem exists_slashes_dropWhile (cs : List Char) :
    ∃ n, cs = slashes n ++ cs.dropWhile isSlash := by
  refine ⟨(cs.takeWhile isSlash).length, ?_⟩
  rw [← eq_slashes fun c hc => List.mem_takeWhile_imp hc, List.takeWhile_append_dropWhile]

theorem exists_slashes_rdropWhile (cs : List Char) :
    ∃ n, cs = cs.rdropWhile isSlash ++ slashes n := by
  refine ⟨(cs.rtakeWhile isSlash).length, ?_⟩
  rw [← eq_slashes fun c hc => List.mem_rtakeWhile_imp hc, List.rdropWhile_append_rtakeWhile]

theorem dropWhile_slashes_append (n : Nat) (cs : List Char) :
    (slashes n ++ cs).dropWhile isSlash = cs.dropWhile isSlash := by
  induction n with
  | zero => rfl
  | succ n ih => exact ih

theorem rdropWhile_append_slashes (n : Nat) (cs : List Char) :
    (cs ++ slashes n).rdropWhile isSlash = cs.rdropWhile isSlash := by
  rw [List.rdropWhile, List.reverse_append, slashes, List.reverse_replicate,
    ← slashes, dropWhile_slashes_append]
  rfl

variable (hs : '/' ∉ cs)
include hs

theorem dropWhile_append_of_noSlash (hne : cs ≠ []) (rest : List Char) :
    (cs ++ rest).dropWhile isSlash = cs ++ rest := by
  obtain ⟨c, cs, rfl⟩ := List.exists_cons_of_ne_nil hne
  have hc : isSlash c = false := beq_false_of_ne (List.ne_of_not_mem_cons hs).symm
  rw [List.cons_append, List.dropWhile_cons_of_neg (by simp [hc])]

theorem rdropWhile_of_noSlash : cs.rdropWhile isSlash = cs := by
  refine List.rdropWhile_eq_self_iff.2 fun hne hlast => hs ?_
  have he : cs.getLast hne = '/' := by simpa [isSlash] using hlast
  exact he ▸ List.getLast_mem hne

theorem trimBy_slashes (hne : cs ≠ []) (before behind : Nat) :
    Text.trimBy isSlash (slashes before ++ (cs ++ slashes behind)) = cs := by
  show ((slashes before ++ (cs ++ slashes behind)).dropWhile isSlash).rdropWhile isSlash = cs
  rw [dropWhile_slashes_append, dropWhile_append_of_noSlash hs hne, rdropWhile_append_slashes,
    rdropWhile_of_noSlash hs]

theorem eq_of_area_prefix {behind : Nat} (h : area <+: cs ++ slashes behind) :
    cs = ['o', 'c', 'p', 'p'] ∧ behind ≠ 0 := by
  obtain ⟨rest, hrest⟩ := h
  have hfirst := congrArg (List.takeWhile (!isSlash ·)) hrest
  have hcs : ∀ c ∈ cs, (!isSlash c) = true := fun c hc => by
    simpa [isSlash] using fun he : c = '/' => hs (he ▸ hc)
  rw [List.takeWhile_append_of_pos hcs] at hfirst
  cases behind with
  | zero =>
    exact absurd (hrest ▸ List.mem_append_left rest (by simp [area])) (by simpa [slashes] using hs)
  | succ n =>
    refine ⟨?_, n.succ_ne_zero⟩
    simpa [area, slashes, isSlash, List.replicate_succ] using hfirst.symm

end Slashes

theorem IsStation.toList_ne_nil {id : String} (hid : IsStation id) : id.toList ≠ [] :=
  fun h => hid.notEmpty (String.toList_eq_nil_iff.1 h)

theorem isStation_ofList {cs : List Char} (hne : cs ≠ []) (hs : '/' ∉ cs) :
    IsStation (String.ofList cs) :=
  ⟨fun h => hne (by simpa using congrArg String.toList h), by simpa using hs⟩

/-- The reader in steps: what is behind the first slashes, and behind the area if it is there, is
trimmed. -/
theorem stationOfPath?_eq_some_iff {path id : String} : stationOfPath? path = some id ↔
    IsStation id ∧ id.toList = Text.trimBy isSlash
      (if area.isPrefixOf (path.toList.dropWhile isSlash) then
        (path.toList.dropWhile isSlash).drop area.length
      else path.toList.dropWhile isSlash) := by
  have hdef : stationOfPath? path =
      let cs := Text.trimBy isSlash
        (if area.isPrefixOf (path.toList.dropWhile isSlash) then
          (path.toList.dropWhile isSlash).drop area.length
        else path.toList.dropWhile isSlash)
      if cs.isEmpty || cs.contains '/' then none else some (String.ofList cs) := rfl
  rw [hdef]
  generalize Text.trimBy isSlash _ = cs
  dsimp only
  split
  · next hbad =>
    refine iff_of_false (by simp) fun ⟨hid, he⟩ => ?_
    subst he
    simp [hid.noSlash, hid.notEmpty] at hbad
  · next hgood =>
    simp only [Bool.or_eq_true, List.isEmpty_iff, List.contains_iff_mem, not_or] at hgood
    constructor
    · intro he
      obtain rfl := Option.some.inj he
      exact ⟨isStation_ofList hgood.1 hgood.2, String.toList_ofList⟩
    · rintro ⟨-, rfl⟩
      rw [String.ofList_toList]

theorem names_of_stationOfPath? {path id : String} (h : stationOfPath? path = some id) :
    Names path id := by
  obtain ⟨hid, he⟩ := stationOfPath?_eq_some_iff.1 h
  obtain ⟨before, hbefore⟩ := exists_slashes_dropWhile path.toList
  split at he
  · next harea =>
    obtain ⟨rest, hrest⟩ := List.isPrefixOf_iff_prefix.1 harea
    rw [← hrest, List.drop_left] at he
    have htrim : id.toList = (rest.dropWhile isSlash).rdropWhile isSlash := he
    obtain ⟨between, hbetween⟩ := exists_slashes_dropWhile rest
    obtain ⟨behind, hbehind⟩ := exists_slashes_rdropWhile (rest.dropWhile isSlash)
    refine .inArea hid before between behind ?_
    rw [htrim, ← hbehind, ← hbetween, hrest]
    exact hbefore
  · next harea =>
    have htrim : id.toList = (path.toList.dropWhile isSlash).rdropWhile isSlash := by
      rw [he]
      exact congrArg (List.rdropWhile isSlash) (List.dropWhile_idempotent isSlash _)
    obtain ⟨behind, hbehind⟩ := exists_slashes_rdropWhile (path.toList.dropWhile isSlash)
    rw [← htrim] at hbehind
    refine .plain hid before behind (hbehind ▸ hbefore) fun hname => ?_
    by_contra hne
    obtain ⟨n, rfl⟩ := Nat.exists_eq_succ_of_ne_zero hne
    apply harea
    rw [hbehind, hname]
    rfl

theorem stationOfPath?_of_names {path id : String} (h : Names path id) :
    stationOfPath? path = some id := by
  refine stationOfPath?_eq_some_iff.2 ?_
  cases h with
  | inArea hid before between behind h =>
    have hcs : path.toList.dropWhile isSlash =
        area ++ (slashes between ++ (id.toList ++ slashes behind)) := by
      rw [h, dropWhile_slashes_append]
      rfl
    refine ⟨hid, ?_⟩
    rw [hcs, if_pos (List.isPrefixOf_iff_prefix.2 (List.prefix_append ..)), List.drop_left,
      trimBy_slashes hid.noSlash hid.toList_ne_nil]
  | plain hid before behind h harea =>
    have hcs : path.toList.dropWhile isSlash = id.toList ++ slashes behind := by
      rw [h, dropWhile_slashes_append, dropWhile_append_of_noSlash hid.noSlash hid.toList_ne_nil]
    have hout : ¬area.isPrefixOf (id.toList ++ slashes behind) = true := fun hin => by
      obtain ⟨hname, hne⟩ := eq_of_area_prefix hid.noSlash (List.isPrefixOf_iff_prefix.1 hin)
      exact hne (harea (String.toList_injective hname))
    refine ⟨hid, ?_⟩
    rw [hcs, if_neg hout]
    exact (trimBy_slashes hid.noSlash hid.toList_ne_nil 0 behind).symm

/-- A path is read as the station that it names, and as none if it names none. It names one station
at most, and every station can be named in the area and without it. -/
theorem station_of_path (path id : String) :
    (stationOfPath? path = some id ↔ Names path id) ∧
      (stationOfPath? path = none ↔ ¬∃ id', Names path id') ∧
      {id' | Names path id'}.Subsingleton ∧
      (stationOfPath? ("/ocpp/" ++ id) = some id ↔ IsStation id) ∧
      (stationOfPath? ("/" ++ id) = some id ↔ IsStation id) := by
  have hiff (path id : String) : stationOfPath? path = some id ↔ Names path id :=
    ⟨names_of_stationOfPath?, stationOfPath?_of_names⟩
  refine ⟨hiff path id, ?_, fun a ha b hb => ?_, ?_, ?_⟩
  · rw [Option.eq_none_iff_forall_ne_some]
    exact ⟨fun h ⟨id', hn⟩ => h id' ((hiff _ _).2 hn), fun h id' he => h ⟨id', (hiff _ _).1 he⟩⟩
  · exact Option.some.inj (((hiff _ _).2 ha).symm.trans ((hiff _ _).2 hb))
  · refine ⟨fun h => (stationOfPath?_eq_some_iff.1 h).1, fun hid => (hiff _ _).2 ?_⟩
    exact .inArea hid 1 0 0 (by simp [slashes, area])
  · refine ⟨fun h => (stationOfPath?_eq_some_iff.1 h).1, fun hid => (hiff _ _).2 ?_⟩
    exact .plain hid 1 0 (by simp [slashes]) fun _ => rfl

end CentralSystem.Handshake
