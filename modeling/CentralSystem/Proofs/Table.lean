import CentralSystem.Table

namespace CentralSystem.Table

variable {κ α : Type} [DecidableEq κ]

theorem mem_of_find? {k : κ} {a : α} {l : List (κ × α)} (h : find? k l = some a) : (k, a) ∈ l := by
  induction l with
  | nil => simp [find?] at h
  | cons head rest ih =>
    obtain ⟨k', a'⟩ := head
    by_cases hk : k = k'
    · subst k'
      simp_all [find?]
    · simp only [find?, hk, ↓reduceIte] at h
      exact List.mem_cons_of_mem _ (ih h)

theorem find?_of_mem {k : κ} {a : α} {l : List (κ × α)} (hl : (l.map (·.1)).Nodup)
    (h : (k, a) ∈ l) : find? k l = some a := by
  induction l with
  | nil => simp at h
  | cons head rest ih =>
    obtain ⟨k', a'⟩ := head
    obtain ⟨hn, hr⟩ := List.nodup_cons.1 hl
    rcases List.mem_cons.1 h with he | hm
    · simp_all [find?]
    · have hk : k ≠ k' := fun e => hn (e ▸ List.mem_map.2 ⟨_, hm, rfl⟩)
      simp only [find?, hk, ↓reduceIte]
      exact ih hr hm

variable [Ord κ]

theorem contains_iff {t : Table κ α} {k : κ} : t.contains k = true ↔ ∃ a, t.get? k = some a :=
  Option.isSome_iff_exists

variable [Std.TransOrd κ]

omit [DecidableEq κ] [Std.TransOrd κ] in
theorem sorted_keys (t : Table κ α) : t.keys.Pairwise (compare · · = .lt) :=
  List.pairwise_map.2 t.sorted

omit [DecidableEq κ] in
theorem nodup_of_sorted {ks : List κ} (h : ks.Pairwise (compare · · = .lt)) : ks.Nodup := by
  refine h.imp fun h he => ?_
  simp [he, Std.ReflCmp.compare_self] at h

omit [DecidableEq κ] in
theorem keys_nodup (t : Table κ α) : t.keys.Nodup := nodup_of_sorted t.sorted_keys

omit [DecidableEq κ] in
theorem eq_of_sorted {ks ks' : List κ} (hs : ks.Pairwise (compare · · = .lt))
    (hs' : ks'.Pairwise (compare · · = .lt)) (h : ∀ k, k ∈ ks ↔ k ∈ ks') : ks = ks' := by
  have hp := (List.perm_ext_iff_of_nodup (nodup_of_sorted hs) (nodup_of_sorted hs')).2 h
  refine hp.eq_of_pairwise (fun a b _ _ hab hba => ?_) hs hs'
  simp [Std.OrientedCmp.gt_iff_lt.2 hab] at hba

theorem mem_entries_iff {t : Table κ α} {k : κ} {a : α} :
    (k, a) ∈ t.entries ↔ t.get? k = some a :=
  ⟨find?_of_mem t.keys_nodup, mem_of_find?⟩

theorem mem_keys_iff {t : Table κ α} {k : κ} : k ∈ t.keys ↔ ∃ a, t.get? k = some a := by
  simp [keys, ← mem_entries_iff]

theorem mem_values_iff {t : Table κ α} {a : α} : a ∈ t.values ↔ ∃ k, t.get? k = some a := by
  simp [values, ← mem_entries_iff]

theorem map_values {t : Table κ α} {f : α → κ} (h : ∀ k a, t.get? k = some a → f a = k) :
    t.values.map f = t.keys := by
  rw [values, keys, List.map_map]
  exact List.map_congr_left fun e he => h e.1 e.2 (mem_entries_iff.1 he)

theorem ext_get? {s t : Table κ α} (h : ∀ k, s.get? k = t.get? k) : s = t := by
  have hm : ∀ e : κ × α, e ∈ s.entries ↔ e ∈ t.entries := fun e => by
    rw [mem_entries_iff, mem_entries_iff, h]
  have hn (t : Table κ α) : t.entries.Nodup :=
    (List.pairwise_map.1 t.keys_nodup).imp fun h he => h (congrArg _ he)
  have hp := (List.perm_ext_iff_of_nodup (hn s) (hn t)).2 hm
  have he : s.entries = t.entries := by
    refine hp.eq_of_pairwise (fun a b _ _ hab hba => ?_) s.sorted t.sorted
    simp [Std.OrientedCmp.gt_iff_lt.2 hab] at hba
  cases s
  cases t
  simp_all

theorem eq_of_mem_keys {t t' : Table κ Unit} (h : ∀ k, k ∈ t.keys ↔ k ∈ t'.keys) : t = t' := by
  refine ext_get? fun k => ?_
  have hk := h k
  rw [mem_keys_iff, mem_keys_iff] at hk
  cases ht : t.get? k with
  | none =>
    cases ht' : t'.get? k with
    | none => rfl
    | some u => simp [ht, ht'] at hk
  | some u =>
    cases ht' : t'.get? k with
    | none => simp [ht, ht'] at hk
    | some u' => rfl

theorem le_of_getLast? {t : Table κ α} {last : κ × α} (hl : t.entries.getLast? = some last) {k : κ}
    {a : α} (h : t.get? k = some a) : k = last.1 ∨ compare k last.1 = .lt := by
  obtain ⟨init, hi⟩ := List.getLast?_eq_some_iff.1 hl
  have hm : (k, a) ∈ init ++ [last] := hi ▸ mem_entries_iff.2 h
  have hs : (init ++ [last]).Pairwise fun a b => compare a.1 b.1 = .lt := hi ▸ t.sorted
  rcases List.mem_append.1 hm with hm | hm
  · exact .inr ((List.pairwise_append.1 hs).2.2 _ hm _ (by simp))
  · exact .inl (congrArg Prod.fst (List.mem_singleton.1 hm))

def map {β : Type} (t : Table κ α) (f : α → β) : Table κ β :=
  ⟨t.entries.map fun e => (e.1, f e.2), List.pairwise_map.2 t.sorted⟩

omit [Std.TransOrd κ] in
theorem get?_map {β : Type} (t : Table κ α) (f : α → β) (k : κ) :
    (t.map f).get? k = (t.get? k).map f := by
  simp only [get?, map]
  induction t.entries with
  | nil => rfl
  | cons head rest ih =>
    obtain ⟨k', a⟩ := head
    by_cases h : k = k' <;> simp [find?, h, ih]

omit [Std.TransOrd κ] in
theorem contains_map {β : Type} (t : Table κ α) (f : α → β) (k : κ) :
    (t.map f).contains k = t.contains k := by
  simp [contains, get?_map]

omit [DecidableEq κ] [Std.TransOrd κ] in
theorem keys_map {β : Type} (t : Table κ α) (f : α → β) : (t.map f).keys = t.keys := by
  simp [keys, map]

theorem erase_of_get?_eq_none {t : Table κ α} {k : κ} (h : t.get? k = none) : t.erase k = t := by
  apply ext_get?
  intro k'
  by_cases hk : k' = k <;> simp [get?_erase, hk, h]

theorem map_erase {β : Type} (t : Table κ α) (f : α → β) (k : κ) :
    (t.erase k).map f = (t.map f).erase k := by
  apply ext_get?
  intro k'
  by_cases h : k' = k <;> simp [get?_map, get?_erase, h]

variable [Std.LawfulEqOrd κ]

theorem map_insert {β : Type} (t : Table κ α) (f : α → β) (k : κ) (a : α) :
    (t.insert k a).map f = (t.map f).insert k (f a) := by
  apply ext_get?
  intro k'
  by_cases h : k' = k <;> simp [get?_map, get?_insert, h]

theorem map_modify {β : Type} (t : Table κ α) (k : κ) {f : α → β} {g : α → α} {g' : β → β}
    (h : ∀ a, f (g a) = g' (f a)) : (t.modify k g).map f = (t.map f).modify k g' := by
  apply ext_get?
  intro k'
  rw [get?_map, get?_modify, get?_modify, get?_map, get?_map]
  split
  · rw [Option.map_map, Option.map_map]
    exact congrArg (Option.map · _) (funext h)
  · rfl

theorem get?_modify_eq_map (t : Table κ α) (k : κ) (f : α → α) (k' : κ) :
    (t.modify k f).get? k' = (t.get? k').map fun a => if k' = k then f a else a := by
  rw [get?_modify]
  split
  · next h => rw [h]
  · exact Option.map_id'.symm

/-- What is done twice with a value has the same effect as once, so keys may occur repeatedly. -/
theorem get?_foldl_modify (t : Table κ α) (ks : List κ) {f : α → α} (hf : ∀ a, f (f a) = f a)
    (k : κ) : (ks.foldl (fun t k => t.modify k f) t).get? k =
      (t.get? k).map fun a => if k ∈ ks then f a else a := by
  induction ks generalizing t with
  | nil => simp
  | cons k' rest ih =>
    rw [List.foldl_cons, ih, get?_modify_eq_map, Option.map_map]
    congr 1
    funext a
    by_cases h : k = k' <;> by_cases hr : k ∈ rest <;> simp [h, hr, hf]

theorem erase_insert (t : Table κ α) (k : κ) (a : α) : (t.insert k a).erase k = t.erase k := by
  apply ext_get?
  intro k'
  by_cases h : k' = k <;> simp [get?_erase, get?_insert, h]

theorem erase_insert_of_ne (t : Table κ α) {k k' : κ} (h : k ≠ k') (a : α) :
    (t.insert k a).erase k' = (t.erase k').insert k a := by
  apply ext_get?
  intro k''
  by_cases hk : k'' = k <;> by_cases hk' : k'' = k' <;> simp_all [get?_erase, get?_insert]

theorem mem_keys_ofList {l : List (κ × α)} {k : κ} : k ∈ (ofList l).keys ↔ ∃ a, (k, a) ∈ l := by
  have hfold (t : Table κ α) :
      (∃ a, (l.foldl (fun t e => t.insert e.1 e.2) t).get? k = some a) ↔
        (∃ a, (k, a) ∈ l) ∨ ∃ a, t.get? k = some a := by
    induction l generalizing t with
    | nil => simp
    | cons e rest ih =>
      obtain ⟨k', b⟩ := e
      rw [List.foldl_cons, ih, get?_insert]
      by_cases hk : k = k'
      · simp [hk]
      · simp [hk]
  rw [mem_keys_iff, ofList, hfold]
  simp

end CentralSystem.Table
