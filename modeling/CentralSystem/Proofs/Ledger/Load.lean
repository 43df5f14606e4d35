import CentralSystem.Proofs.Ledger.Backed

namespace CentralSystem

theorem foldlM_ok {α β ε : Type} {f : β → α → Except ε β} {P : List α → β → Prop} {l : List α}
    (hstep : ∀ done a b, a ∈ l → P done b → ∃ b', f b a = .ok b' ∧ P (done ++ [a]) b') {b : β}
    (hb : P [] b) : ∃ b', l.foldlM f b = .ok b' ∧ P l b' := by
  suffices hgen : ∀ done rest b, l = done ++ rest → P done b →
      ∃ b', rest.foldlM f b = .ok b' ∧ P l b' from hgen [] l b rfl hb
  intro done rest
  induction rest generalizing done with
  | nil =>
    intro b hl hd
    rw [List.append_nil] at hl
    exact ⟨b, rfl, hl ▸ hd⟩
  | cons a rest ih =>
    intro b hl hd
    obtain ⟨b₁, h₁, hd₁⟩ := hstep done a b (by simp [hl]) hd
    obtain ⟨b', hb', hP⟩ := ih (done ++ [a]) b₁ (by simp [hl]) hd₁
    exact ⟨b', by rw [List.foldlM_cons, h₁]; exact hb', hP⟩

theorem foldlM_preserve {α β ε : Type} {f : β → α → Except ε β} {P : β → Prop} {l : List α}
    (hstep : ∀ a ∈ l, ∀ b b', f b a = .ok b' → P b → P b') {b b' : β}
    (h : l.foldlM f b = .ok b') (hb : P b) : P b' := by
  induction l generalizing b with
  | nil => exact Except.ok.inj h ▸ hb
  | cons a rest ih =>
    rw [List.foldlM_cons] at h
    cases hf : f b a with
    | error e => simp [hf, bind, Except.bind] at h
    | ok b₁ =>
      rw [hf] at h
      exact ih (fun a' ha' => hstep a' (List.mem_cons_of_mem _ ha')) h
        (hstep a List.mem_cons_self b b₁ hf hb)

namespace Database

/-- What is on record fits together: each connector belongs to a charge point on record, and an
active one names an open transaction that names it in turn. -/
structure Consistent (db : Database) : Prop where
  keyed : db.Keyed
  owner : ∀ s i c, db.connector? s i = some c → ∃ cp, db.chargePoints.get? s = some cp
  link : ∀ s i c, db.connector? s i = some c → c.isActive = true →
    ∃ t, db.transactions.get? c.transaction = some t ∧ t.isFinished = false ∧
      t.chargePoint = s ∧ t.connector = c.id
  nonneg : ∀ id t, db.transactions.get? id = some t → 0 ≤ id

end Database

namespace Registry

/-- A registry into which these charge points and connectors of the database are loaded. -/
structure Loads (db : Database) (known : String → Prop) (visited : String → UInt32 → Prop)
    (r : Registry) : Prop where
  chargePoint : ∀ s cp, r.chargePoint? s = some cp ↔ known s ∧ db.chargePoints.get? s = some cp
  connector : ∀ s i c, r.connector? s i = some c ↔ visited s i ∧ db.connector? s i = some c
  transaction : ∀ id t, r.transactions.get? id = some t ↔
    db.transactions.get? id = some t ∧ t.isFinished = false ∧
      ∃ s i c, visited s i ∧ db.connector? s i = some c ∧ c.isActive = true ∧ c.transaction = id
  nextId : r.nextId = db.lastTransaction?.elim 1 fun t => .ofIntClamp (t.id.toInt + 1)

namespace Loads

variable {db : Database} {known : String → Prop} {visited visited' : String → UInt32 → Prop}
  {r : Registry} (h : r.Loads db known visited)
include h

theorem congr (hv : ∀ s i c, db.connector? s i = some c → (visited s i ↔ visited' s i)) :
    r.Loads db known visited' where
  chargePoint := h.chargePoint
  connector s i c := (h.connector s i c).trans (and_congr_left (hv s i c))
  transaction id t := by
    rw [h.transaction]
    refine and_congr_right fun _ => and_congr_right fun _ => ?_
    refine exists_congr fun s => exists_congr fun i => exists_congr fun c => ?_
    constructor
    · rintro ⟨h₁, h₂, h₃⟩
      exact ⟨(hv s i c h₂).1 h₁, h₂, h₃⟩
    · rintro ⟨h₁, h₂, h₃⟩
      exact ⟨(hv s i c h₂).2 h₁, h₂, h₃⟩
  nextId := h.nextId

theorem register {cp : ChargePoint} (hcp : db.chargePoints.get? cp.id = some cp) :
    (r.register cp).Loads db (fun s => known s ∨ cp.id = s) visited := by
  by_cases hk : r.knows cp.id = true
  · rw [register_of_knows hk]
    obtain ⟨cp', hcp'⟩ := knows_iff.1 hk
    have hold := ((h.chargePoint _ _).1 hcp').1
    exact { h with
      chargePoint := fun s x => (h.chargePoint s x).trans
        (and_congr_left fun _ => ⟨.inl, fun hs => hs.elim id fun he => he ▸ hold⟩) }
  · have hk : r.knows cp.id = false := by simpa using hk
    refine
      { chargePoint := fun s x => ?_
        connector := fun s i c => by rw [connector?_register]; exact h.connector s i c
        transaction := fun id t => by rw [transactions_register]; exact h.transaction id t
        nextId := (nextId_register cp).trans h.nextId }
    rw [chargePoint?_register hk]
    split
    · rename_i hs
      rw [hs, hcp]
      exact ⟨fun he => ⟨.inr rfl, he⟩, And.right⟩
    · rename_i hs
      rw [h.chargePoint, or_iff_left (Ne.symm hs)]

theorem setConnector {station : String} {c : Connector} {T : Table Int32 Transaction}
    (hk : r.knows station = true) (hc : db.connector? station c.id = some c)
    (hT : ∀ id t, T.get? id = some t ↔ r.transactions.get? id = some t ∨
      db.transactions.get? id = some t ∧ t.isFinished = false ∧ c.isActive = true ∧
        c.transaction = id) :
    ({ r with transactions := T }.setConnector station c).Loads db known
      (fun s i => visited s i ∨ s = station ∧ c.id = i) := by
  have hcon (s : String) (i : UInt32) :
      ({ r with transactions := T }.setConnector station c).connector? s i =
        if s = station ∧ i = c.id then some c else r.connector? s i :=
    connector?_setConnector hk c s i
  refine
    { chargePoint := fun s cp => by rw [chargePoint?_setConnector]; exact h.chargePoint s cp
      connector := fun s i c' => ?_
      transaction := fun id t => ?_
      nextId := h.nextId }
  · rw [hcon]
    split
    · rename_i he
      obtain ⟨rfl, rfl⟩ := he
      rw [hc]
      exact ⟨fun he => ⟨.inr ⟨rfl, rfl⟩, he⟩, And.right⟩
    · rename_i hne
      rw [h.connector, or_iff_left fun he => hne ⟨he.1, he.2.symm⟩]
  · refine (hT id t).trans ?_
    rw [h.transaction]
    constructor
    · rintro (⟨hdb, ho, s, i, c', hv, hc'⟩ | ⟨hdb, ho, ha, htx⟩)
      · exact ⟨hdb, ho, s, i, c', .inl hv, hc'⟩
      · exact ⟨hdb, ho, station, c.id, c, .inr ⟨rfl, rfl⟩, hc, ha, htx⟩
    · rintro ⟨hdb, ho, s, i, c', hv | ⟨rfl, rfl⟩, hc', ha, htx⟩
      · exact .inl ⟨hdb, ho, s, i, c', hv, hc', ha, htx⟩
      · obtain rfl := Option.some.inj (hc.symm.trans hc')
        exact .inr ⟨hdb, ho, ha, htx⟩

theorem setConnector_of_not_open {station : String} {c : Connector} (hk : r.knows station = true)
    (hc : db.connector? station c.id = some c)
    (hno : ∀ t, db.transactions.get? c.transaction = some t → t.isFinished = false →
      c.isActive = false) :
    (r.setConnector station c).Loads db known
      (fun s i => visited s i ∨ s = station ∧ c.id = i) := by
  apply h.setConnector (T := r.transactions) hk hc
  intro id t
  apply (or_iff_left _).symm
  rintro ⟨hdb, ho, ha, rfl⟩
  rw [hno t hdb ho] at ha
  cases ha

theorem setConnector_of_open {station : String} {c : Connector} {t : Transaction}
    (hk : r.knows station = true) (hc : db.connector? station c.id = some c)
    (ha : c.isActive = true) (hdb : db.transactions.get? c.transaction = some t)
    (ho : t.isFinished = false) (hid : t.id = c.transaction) :
    ((r.putTransaction t).setConnector station c).Loads db known
      (fun s i => visited s i ∨ s = station ∧ c.id = i) := by
  apply h.setConnector hk hc
  intro id t'
  rw [Table.get?_insert, hid]
  split
  · rename_i he
    subst he
    rw [h.transaction, hdb]
    constructor
    · intro he
      obtain rfl := Option.some.inj he
      exact .inr ⟨rfl, ho, ha, rfl⟩
    · intro he
      exact he.elim And.left And.left
  · rename_i hne
    apply (or_iff_left _).symm
    rintro ⟨_, _, _, he⟩
    exact hne he.symm

end Loads

abbrev Stored (db : Database) (s : String) : Prop := db.chargePoints.contains s = true

section Loads

variable {db : Database} {r : Registry} (h : r.Loads db (Stored db) fun s _ => Stored db s)
include h

theorem Loads.tracks : r.Tracks db := fun s =>
  congrArg _ (Option.ext fun cp => (h.chargePoint s cp).trans
    (and_iff_right_of_imp fun hs => Table.contains_iff.2 ⟨cp, hs⟩))

theorem Loads.keyed (hk : db.Keyed) : r.Keyed where
  chargePoint s cp hs := hk.chargePoint s cp ((h.chargePoint s cp).1 hs).2
  connector s i c hc := hk.connector s i c ((h.connector s i c).1 hc).2
  transaction id t ht := hk.transaction id t ((h.transaction id t).1 ht).1

theorem Loads.counts (hk : db.Keyed) (hpos : ∀ id t, db.transactions.get? id = some t → 0 ≤ id) :
    r.Counts db where
  keyed := hk
  nonneg id t ht := Int32.le_iff_toInt_le.1 (hpos id t ht)
  nextId hlt := by
    rw [h.nextId]
    rw [Database.highestId] at hlt ⊢
    cases hl : db.lastTransaction? with
    | none => rfl
    | some t =>
      rw [hl] at hlt
      have hpos := Int32.le_iff_toInt_le.1 (hpos _ _ (Database.get?_lastTransaction? hk hl))
      simp only [Option.elim_some, Int32.toInt_zero] at hlt hpos ⊢
      refine Int32.toInt_ofIntClamp ?_ ?_
      · rw [Int32.toInt_minValue]
        omega
      · rw [Int32.toInt_maxValue]
        omega

theorem Loads.backed (hc : db.Consistent) : r.Backed db := by
  have hcon (s : String) (i : UInt32) : r.connector? s i = db.connector? s i :=
    Option.ext fun c => (h.connector s i c).trans
      (and_iff_right_of_imp fun hs => Table.contains_iff.2 (hc.owner s i c hs))
  have hcounts := h.counts hc.keyed hc.nonneg
  refine
    { keyed := hc.keyed
      chargePoint := h.tracks
      connector := hcon
      transaction := fun id t ht => ⟨((h.transaction id t).1 ht).1, ((h.transaction id t).1 ht).2.1⟩
      linked := fun s i c hs ha => ?_
      nonneg := hcounts.nonneg
      nextId := hcounts.nextId }
  obtain ⟨hv, hdb⟩ := (h.connector s i c).1 hs
  obtain ⟨t, ht, ho, hst, hi⟩ := hc.link s i c hdb ha
  exact ⟨t, (h.transaction _ t).2 ⟨ht, ho, s, i, c, hv, hdb, ha, rfl⟩, hst,
    hi.trans (hc.keyed.connector s i c hdb)⟩

end Loads

theorem Backed.consistent {db : Database} {r : Registry} (h : r.Backed db) : db.Consistent where
  keyed := h.keyed
  owner s i c hc := by
    have hk := knows_of_connector? ((h.connector s i).trans hc)
    rw [h.chargePoint.knows_eq] at hk
    exact Table.contains_iff.1 hk
  link s i c hc ha := by
    have hr := (h.connector s i).trans hc
    obtain ⟨t, ht, ho, hs, hi⟩ := h.record_of_isActive hr ha
    exact ⟨t, ht, ho, hs, hi.trans (h.id_of_connector hr).symm⟩
  nonneg id t ht := Int32.le_iff_toInt_le.2 (h.nonneg id t ht)

end Registry

namespace Ledger

open Registry

variable {db : Database} {known : String → Prop} {visited : String → UInt32 → Prop}
  (hkey : db.Keyed)
include hkey

theorem loadConnector_ok {l : Ledger} {station : String} {c : Connector}
    (h : l.registry.Loads db known visited) (hk : known station)
    (hcp : ∃ cp, db.chargePoints.get? station = some cp)
    (hc : db.connector? station c.id = some c) :
    ∃ l', load.loadConnector { database := db } station l c = .ok l' ∧ l'.storage = l.storage ∧
      l'.registry.Loads db known (fun s i => visited s i ∨ s = station ∧ c.id = i) := by
  have hknows : l.registry.knows station = true := by
    obtain ⟨cp, hcp⟩ := hcp
    exact knows_iff.2 ⟨cp, (h.chargePoint _ _).2 ⟨hk, hcp⟩⟩
  have hdrop := h.setConnector_of_not_open hknows hc
  simp only [load.loadConnector, Storage.transaction?, Storage.attempt, List.not_mem_nil,
    ↓reduceIte]
  by_cases ha : c.isActive = true
  · cases hdb : db.transactions.get? c.transaction with
    | none =>
      simp only [ha, ↓reduceIte]
      exact ⟨_, rfl, rfl, hdrop fun t ht => by rw [hdb] at ht; cases ht⟩
    | some t =>
      simp only [ha, ↓reduceIte]
      by_cases hf : t.isFinished = true
      · simp only [hf, bind, Except.bind, ↓reduceIte]
        refine ⟨_, rfl, rfl, hdrop fun t' ht' ho => ?_⟩
        rw [hdb] at ht'
        obtain rfl := Option.some.inj ht'
        rw [hf] at ho
        cases ho
      · simp only [hf, bind, Except.bind]
        have ho : t.isFinished = false := by simpa using hf
        have hid : t.id = c.transaction := hkey.transaction _ _ hdb
        exact ⟨_, rfl, rfl, h.setConnector_of_open hknows hc ha hdb ho hid⟩
  · simp only [ha]
    exact ⟨_, rfl, rfl, hdrop fun _ _ _ => by simpa using ha⟩

theorem loadStation_ok {l : Ledger} {cp : ChargePoint}
    (h : l.registry.Loads db known fun s _ => known s)
    (hcp : db.chargePoints.get? cp.id = some cp) :
    ∃ l', load.loadStation { database := db } l cp = .ok l' ∧ l'.storage = l.storage ∧
      l'.registry.Loads db (fun s => known s ∨ cp.id = s) (fun s _ => known s ∨ cp.id = s) := by
  simp only [load.loadStation, Storage.connectors, Storage.attempt, List.not_mem_nil, ↓reduceIte,
    bind, Except.bind]
  have hvalues (c : Connector) (hc : c ∈ (db.connectorsOf cp.id).values) :
      db.connector? cp.id c.id = some c := by
    obtain ⟨i, hi⟩ := Table.mem_values_iff.1 hc
    have hid : c.id = i := hkey.connector cp.id i c hi
    exact hid ▸ hi
  obtain ⟨l', hl', hs, hr⟩ := foldlM_ok (f := load.loadConnector { database := db } cp.id)
    (P := fun done m => m.storage = l.storage ∧ m.registry.Loads db (fun s => known s ∨ cp.id = s)
      fun s i => known s ∨ s = cp.id ∧ ∃ c ∈ done, c.id = i)
    (l := (db.connectorsOf cp.id).values)
    (fun done c m hc hm => by
      obtain ⟨m', hm', hs, hr⟩ := loadConnector_ok hkey hm.2 (.inr rfl) ⟨cp, hcp⟩ (hvalues c hc)
      refine ⟨m', hm', hs.trans hm.1, hr.congr fun s i c' _ => ?_⟩
      simp only [List.mem_append, List.mem_singleton, or_and_right, exists_or, exists_eq_left,
        and_or_left, or_assoc])
    (b := { l with registry := l.registry.register cp })
    ⟨rfl, (h.register hcp).congr fun s i c _ => by simp⟩
  refine ⟨l', hl', hs, hr.congr fun s i c hc => or_congr_right ?_⟩
  constructor
  · exact fun he => he.1.symm
  · rintro rfl
    exact ⟨rfl, c, Table.mem_values_iff.2 ⟨i, hc⟩, hkey.connector _ i c hc⟩

theorem load_ok : ∃ l, load { database := db } = .ok l ∧ l.storage = { database := db } ∧
    l.registry.Loads db (Stored db) (fun s _ => Stored db s) := by
  simp only [load, Storage.lastTransaction?, Storage.chargePoints, Storage.attempt,
    List.not_mem_nil, ↓reduceIte, bind, Except.bind]
  obtain ⟨l, hl, hs, hr⟩ := foldlM_ok (f := load.loadStation { database := db })
    (P := fun done m => m.storage = { database := db } ∧
      m.registry.Loads db (fun s => ∃ cp ∈ done, cp.id = s) fun s _ => ∃ cp ∈ done, cp.id = s)
    (l := db.chargePoints.values)
    (fun done cp m hcp hm => by
      obtain ⟨s, hs⟩ := Table.mem_values_iff.1 hcp
      have hid : cp.id = s := hkey.chargePoint s cp hs
      obtain ⟨m', hm', hs', hr⟩ := loadStation_ok hkey hm.2 (hid ▸ hs)
      refine ⟨m', hm', hs'.trans hm.1, ?_⟩
      simpa only [List.mem_append, List.mem_singleton, or_and_right, exists_or,
        exists_eq_left] using hr)
    (b := { registry :=
        { nextId := db.lastTransaction?.elim 1 fun t => .ofIntClamp (t.id.toInt + 1) }
            storage := { database := db } })
    ⟨rfl, by
      constructor <;> simp [chargePoint?, connector?]⟩
  have hknown (s : String) : (∃ cp ∈ db.chargePoints.values, cp.id = s) ↔
      Stored db s := by
    rw [Stored, Table.contains_iff]
    constructor
    · rintro ⟨cp, hcp, rfl⟩
      obtain ⟨s, hs⟩ := Table.mem_values_iff.1 hcp
      exact ⟨cp, hkey.chargePoint s cp hs ▸ hs⟩
    · rintro ⟨cp, hcp⟩
      exact ⟨cp, Table.mem_values_iff.2 ⟨s, hcp⟩, hkey.chargePoint s cp hcp⟩
  refine ⟨l, hl, hs, ?_⟩
  simpa only [hknown] using hr

omit hkey in
theorem queue_loadConnector {storage : Storage} {station : String} {c : Connector} {l l' : Ledger}
    (h : load.loadConnector storage station l c = .ok l') : l'.queue = l.queue := by
  simp only [load.loadConnector, bind, Except.bind] at h
  split at h
  · cases ht : storage.transaction? c.transaction with
    | error e =>
      rw [ht] at h
      cases h
    | ok t? =>
      rw [ht] at h
      cases t? with
      | none => exact Except.ok.inj h ▸ rfl
      | some t =>
        dsimp only at h
        split at h <;> exact Except.ok.inj h ▸ rfl
  · exact Except.ok.inj h ▸ rfl

omit hkey in
theorem queue_load {storage : Storage} {l : Ledger} (h : load storage = .ok l) : l.queue = [] := by
  have hstation (cp : ChargePoint) (m m' : Ledger)
      (hm : load.loadStation storage m cp = .ok m') (hq : m.queue = []) : m'.queue = [] := by
    simp only [load.loadStation, bind, Except.bind] at hm
    split at hm
    · cases hm
    · exact foldlM_preserve (P := fun m => m.queue = [])
        (fun _ _ _ _ hc hq => (queue_loadConnector hc).trans hq) hm hq
  simp only [load, bind, Except.bind] at h
  split at h
  · cases h
  · split at h
    · cases h
    · exact foldlM_preserve (P := fun m => m.queue = []) (fun cp _ => hstation cp) h rfl

end Ledger

end CentralSystem
