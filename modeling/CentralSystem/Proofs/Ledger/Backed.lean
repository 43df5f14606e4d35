import CentralSystem.Proofs.Ledger.Numbering
import CentralSystem.Proofs.Ledger.Sites

namespace CentralSystem

namespace Registry

structure Backed (r : Registry) (db : Database) : Prop where
  keyed : db.Keyed
  chargePoint : r.Tracks db
  connector : ∀ s i, r.connector? s i = db.connector? s i
  transaction : ∀ id t, r.transactions.get? id = some t →
    db.transactions.get? id = some t ∧ t.isFinished = false
  linked : ∀ s i c, r.connector? s i = some c → c.isActive = true →
    ∃ t, r.transactions.get? c.transaction = some t ∧ t.chargePoint = s ∧ t.connector = i
  nonneg : ∀ id t, db.transactions.get? id = some t → 0 ≤ id.toInt
  nextId : db.highestId < 2 ^ 31 - 1 → r.nextId.toInt = db.highestId + 1

/-- No connector has the transaction. -/
def IsLoose (r : Registry) (id : Int32) : Prop :=
  ∀ s i c, r.connector? s i = some c → c.isActive = true → c.transaction ≠ id

namespace Backed

variable {r : Registry} {db : Database} (h : r.Backed db)
include h

theorem id_of_chargePoint {s : String} {cp : ChargePoint} (hs : r.chargePoint? s = some cp) :
    cp.id = s := by
  obtain ⟨cp', hcp', he⟩ := h.chargePoint.exists_of_chargePoint hs
  exact (ChargePoint.of_unseen_eq he).1.symm.trans (h.keyed.chargePoint s cp' hcp')

theorem id_of_connector {s : String} {i : UInt32} {c : Connector}
    (hc : r.connector? s i = some c) : c.id = i := by
  rw [h.connector] at hc
  exact h.keyed.connector s i c hc

theorem id_of_transaction {id : Int32} {t : Transaction}
    (ht : r.transactions.get? id = some t) : t.id = id :=
  h.keyed.transaction id t (h.transaction id t ht).1

theorem counts : r.Counts db := ⟨h.keyed, h.nonneg, h.nextId⟩

theorem congr {r' : Registry} {db' : Database} (hk : db'.Keyed) (ht : r'.Tracks db')
    (hc : ∀ s i, r'.connector? s i = r.connector? s i) (htx : r'.transactions = r.transactions)
    (hn : r'.nextId = r.nextId) (hdc : db'.connectors = db.connectors)
    (hdt : db'.transactions = db.transactions) : r'.Backed db' := by
  have hcounts : r'.Counts db' := (h.counts.keep hk hn fun id => by rw [hdt]).1
  refine
    { keyed := hk
      chargePoint := ht
      connector := fun s i => ?_
      transaction := by rw [htx, hdt]; exact h.transaction
      linked := fun s i c hs ha => ?_
      nonneg := hcounts.nonneg
      nextId := hcounts.nextId }
  · have hof : db'.connectorsOf s = db.connectorsOf s := by
      rw [Database.connectorsOf, hdc]
      rfl
    rw [hc, h.connector, Database.connector?, Database.connector?, hof]
  · rw [hc] at hs
    rw [htx]
    exact h.linked s i c hs ha

theorem setConnector {s : String} {c : Connector} (hk : r.knows s = true)
    (hl : c.isActive = true → ∃ t, r.transactions.get? c.transaction = some t ∧
      t.chargePoint = s ∧ t.connector = c.id) :
    (r.setConnector s c).Backed (db.putConnector s c) := by
  refine
    { keyed := h.keyed.putConnector s c
      chargePoint := fun s' => by rw [chargePoint?_setConnector]; exact h.chargePoint s'
      connector := fun s' i => ?_
      transaction := h.transaction
      linked := fun s' i c' hc' ha => ?_
      nonneg := h.nonneg
      nextId := h.nextId }
  · rw [connector?_setConnector hk, Database.connector?_putConnector, h.connector]
  · rw [connector?_setConnector hk] at hc'
    split at hc'
    · rename_i he
      obtain rfl := Option.some.inj hc'
      rw [he.1, he.2]
      exact hl ha
    · exact h.linked s' i c' hc' ha

theorem removeTransaction {id : Int32} (hl : r.IsLoose id) :
    (r.removeTransaction id).Backed db where
  keyed := h.keyed
  chargePoint := h.chargePoint
  connector := h.connector
  transaction id' t ht := by
    rw [Registry.removeTransaction, Table.get?_erase] at ht
    split at ht
    · cases ht
    · exact h.transaction id' t ht
  linked s i c hc ha := by
    rw [Registry.removeTransaction, Table.get?_erase, if_neg (hl s i c hc ha)]
    exact h.linked s i c hc ha
  nonneg := h.nonneg
  nextId := h.nextId

theorem settle {t t' : Transaction} (hl : r.IsLoose t'.id)
    (ht : db.transactions.get? t'.id = some t) :
    (r.removeTransaction t'.id).Backed (db.updateTransaction t') := by
  have hupd : db.updateTransaction t' = db.putTransaction t' :=
    if_pos (Table.contains_iff.2 ⟨t, ht⟩)
  have hr := h.removeTransaction hl
  have hcounts : (r.removeTransaction t'.id).Counts (db.updateTransaction t') :=
    (hr.counts.keep (h.keyed.updateTransaction t') rfl (Database.contains_updateTransaction t')).1
  rw [hupd] at hcounts ⊢
  refine
    { keyed := hcounts.keyed
      chargePoint := h.chargePoint
      connector := h.connector
      transaction := fun id t₁ h₁ => ?_
      linked := hr.linked
      nonneg := hcounts.nonneg
      nextId := hcounts.nextId }
  have hne : id ≠ t'.id := by
    rintro rfl
    rw [Registry.removeTransaction, Table.get?_erase, if_pos rfl] at h₁
    cases h₁
  rw [Database.putTransaction, Table.get?_insert, if_neg hne]
  exact hr.transaction id t₁ h₁

/-- An active connector has an open transaction on record that names it. -/
theorem record_of_isActive {s : String} {i : UInt32} {c : Connector}
    (hc : r.connector? s i = some c) (ha : c.isActive = true) :
    ∃ t, db.transactions.get? c.transaction = some t ∧ t.isFinished = false ∧
      t.chargePoint = s ∧ t.connector = i := by
  obtain ⟨t, ht, hs, hi⟩ := h.linked s i c hc ha
  obtain ⟨hdb, ho⟩ := h.transaction _ t ht
  exact ⟨t, hdb, ho, hs, hi⟩

theorem exclusive {s s' : String} {i i' : UInt32} {c c' : Connector}
    (hc : r.connector? s i = some c) (ha : c.isActive = true)
    (hc' : r.connector? s' i' = some c') (ha' : c'.isActive = true)
    (he : c'.transaction = c.transaction) : s' = s ∧ i' = i := by
  obtain ⟨t, ht, rfl, rfl⟩ := h.linked s i c hc ha
  obtain ⟨t', ht', rfl, rfl⟩ := h.linked s' i' c' hc' ha'
  rw [he] at ht'
  obtain rfl := Option.some.inj (ht.symm.trans ht')
  exact ⟨rfl, rfl⟩

theorem isLoose_setConnector {s : String} {c : Connector} (c' : Connector)
    (hc : r.connector? s c.id = some c) (ha : c.isActive = true) (hid : c'.id = c.id)
    (hne : c'.isActive = true → c'.transaction ≠ c.transaction) :
    (r.setConnector s c').IsLoose c.transaction := by
  intro s' i x hx hax he
  rw [connector?_setConnector (knows_of_connector? hc)] at hx
  split at hx
  · obtain rfl := Option.some.inj hx
    exact hne hax he
  · rename_i hother
    obtain ⟨rfl, rfl⟩ := h.exclusive hc ha hx hax he
    exact hother ⟨rfl, hid.symm⟩

/-- The ids that are on record are below the next one. -/
theorem get?_nextId (hlt : db.highestId < 2 ^ 31 - 1) : db.transactions.get? r.nextId = none :=
  h.counts.get?_nextId hlt

theorem transaction_ne_nextId (hlt : db.highestId < 2 ^ 31 - 1) {s : String} {i : UInt32}
    {c : Connector} (hc : r.connector? s i = some c) (ha : c.isActive = true) :
    c.transaction ≠ r.nextId := by
  obtain ⟨t, hdb, -⟩ := h.record_of_isActive hc ha
  intro he
  rw [he, h.get?_nextId hlt] at hdb
  cases hdb

theorem isLoose_of_record {id : Int32} {t : Transaction} (ht : db.transactions.get? id = some t)
    (hno : ∀ c, r.connector? t.chargePoint t.connector = some c → c.transaction ≠ id) :
    r.IsLoose id := by
  intro s i c hc ha he
  obtain ⟨t', hdb, -, rfl, rfl⟩ := h.record_of_isActive hc ha
  rw [he, ht] at hdb
  obtain rfl := Option.some.inj hdb
  exact hno c hc he

theorem isLoose_of_isFinished {id : Int32} {t : Transaction}
    (ht : db.transactions.get? id = some t) (hf : t.isFinished = true) : r.IsLoose id := by
  intro s i c hc ha he
  obtain ⟨t', hdb, ho, -⟩ := h.record_of_isActive hc ha
  rw [he, ht] at hdb
  obtain rfl := Option.some.inj hdb
  rw [hf] at ho
  cases ho

section Enter

variable (hlt : db.highestId < 2 ^ 31 - 1) {t : Transaction} (hid : t.id = r.nextId)
include hlt hid

theorem addTransaction_eq : db.addTransaction t = db.putTransaction t := by
  have hnone : db.transactions.get? t.id = none := hid ▸ h.get?_nextId hlt
  exact if_neg (by simp [Table.contains, hnone])

theorem enter (ho : t.isFinished = false) :
    ({ r with nextId := r.nextId + 1 }.putTransaction t).Backed (db.addTransaction t) := by
  have hcounts : ({ r with nextId := r.nextId + 1 }.putTransaction t).Counts
      (db.addTransaction t) :=
    (h.counts.take hlt (h.keyed.addTransaction t) rfl
      (hid ▸ Database.contains_addTransaction t)).1
  rw [h.addTransaction_eq hlt hid] at hcounts ⊢
  refine
    { keyed := hcounts.keyed
      chargePoint := h.chargePoint
      connector := h.connector
      transaction := fun id t' ht' => ?_
      linked := fun s i c hc ha => ?_
      nonneg := hcounts.nonneg
      nextId := hcounts.nextId }
  · rw [putTransaction, Table.get?_insert] at ht'
    rw [Database.putTransaction, Table.get?_insert]
    split at ht'
    · rename_i he
      obtain rfl := Option.some.inj ht'
      exact ⟨if_pos he, ho⟩
    · rename_i he
      rw [if_neg he]
      exact h.transaction id t' ht'
  · obtain ⟨t', ht', hs, hi⟩ := h.linked s i c hc ha
    have hne : c.transaction ≠ t.id := hid ▸ h.transaction_ne_nextId hlt hc ha
    refine ⟨t', ?_, hs, hi⟩
    rw [putTransaction, Table.get?_insert, if_neg hne]
    exact ht'

end Enter

end Backed

end Registry

namespace Ledger

theorem record?_of_backed {l : Ledger} (h : l.registry.Backed l.database) (id : Int32) :
    l.record? id = l.database.transactions.get? id := by
  rw [record?]
  cases ht : l.registry.transactions.get? id with
  | none => rfl
  | some t => exact ((h.transaction id t ht).1).symm

theorem keyed_of_backed {l : Ledger} (h : l.registry.Backed l.database) : l.Keyed :=
  ⟨⟨fun _ _ => h.id_of_chargePoint, fun _ _ _ => h.id_of_connector, fun _ _ => h.id_of_transaction⟩,
    h.keyed⟩

end Ledger

open Registry Ledger Database

theorem Change.backed {settings : Settings} {sharing : Bool} {n : Nat} {l l' : Ledger}
    (hc : Change settings sharing n l l') (h : l.registry.Backed l.database)
    (hn : l.database.highestId + n ≤ 2 ^ 31 - 1) : l'.registry.Backed l'.database := by
  have hkey := (hc.keyed (keyed_of_backed h)).2
  have htracks := (hc.tracks (keyed_of_backed h).1 h.chargePoint).1
  cases hc with
  | publish => exact h
  | tag => exact h.congr hkey htracks (fun _ _ => rfl) rfl rfl rfl rfl
  | samples samples =>
    obtain ⟨s, hs⟩ := Database.foldl_addSample samples l.database
    simp only [registry_setDatabase, database, storage_setDatabase, hs] at hkey htracks ⊢
    exact h.congr hkey htracks (fun _ _ => rfl) rfl rfl rfl rfl
  | enroll =>
    exact h.congr hkey htracks (connector?_register _) (transactions_register _)
      (nextId_register _) (connectors_addChargePoint _) (transactions_addChargePoint _)
  | see => exact h.congr hkey htracks (connector?_setChargePoint _) rfl rfl rfl rfl
  | amend =>
    exact h.congr hkey htracks (connector?_setChargePoint _) rfl rfl
      (connectors_updateChargePoint _) (transactions_updateChargePoint _)
  | @report _ station c c' hk hid hc htx =>
    refine h.setConnector hk fun ha => ?_
    rw [Connector.isActive, htx] at ha
    have hcon : l.registry.connector? station c.id = some c := by
      cases hl : l.registry.connector? station c.id with
      | none =>
        rw [hl, Option.getD_none] at hc
        rw [← hc] at ha
        cases ha
      | some c₀ => exact congrArg some (by simpa [hl] using hc)
    obtain ⟨t, ht, hs, hi⟩ := h.linked _ _ _ hcon ha
    exact ⟨t, htx ▸ ht, hs, hid ▸ hi⟩
  | @release _ station c c' hc ha hid htx =>
    have hidle : c'.isActive = false := by rw [Connector.isActive, htx]; rfl
    have hput := h.setConnector (c := c') (knows_of_connector? hc) (by simp [hidle])
    have hloose := h.isLoose_setConnector c' hc ha hid (by simp [hidle])
    simp only [registry_order, database, storage_order]
    exact hput.removeTransaction hloose
  | enter hid ho =>
    have hlt : l.database.highestId < 2 ^ 31 - 1 := by omega
    simp only [registry_order, database, storage_order, registry_publish, storage_publish]
    exact h.enter hlt hid ho
  | @occupy _ t c hid ho hc hi =>
    have hlt : l.database.highestId < 2 ^ 31 - 1 := by omega
    have hput := (h.enter hlt hid ho).setConnector (s := t.chargePoint)
      (c := { c with transaction := t.id }) (knows_of_connector? hc)
      fun _ => ⟨t, Table.get?_insert_self .., rfl, hi⟩
    simp only [registry_order, database, storage_order, registry_publish, storage_publish]
    exact hput
  | @displace _ t c hid ho hc hi ha =>
    have hlt : l.database.highestId < 2 ^ 31 - 1 := by omega
    have hent := h.enter hlt hid ho
    have hput := hent.setConnector (s := t.chargePoint) (c := { c with transaction := t.id })
      (knows_of_connector? hc) fun _ => ⟨t, Table.get?_insert_self .., rfl, hi⟩
    have hne : t.id ≠ c.transaction := hid ▸ (h.transaction_ne_nextId hlt hc ha).symm
    have hloose := hent.isLoose_setConnector { c with transaction := t.id } hc ha rfl
      fun _ => hne
    simp only [registry_order, database, storage_order, registry_publish, storage_publish]
    exact hput.removeTransaction hloose
  | @close _ t t' c now hr ho hid hs hi hf hc htx =>
    rw [record?_of_backed h] at hr
    have hci : c.id = t.connector := h.id_of_connector hc
    rw [← hci] at hc
    have hpos := h.nonneg _ _ hr
    have ha : c.isActive = true := by
      rw [Connector.isActive, htx]
      exact decide_eq_true (Int32.le_iff_toInt_le.2 hpos)
    have hput := h.setConnector (s := t.chargePoint) (c := { c with transaction := noTransaction })
      (knows_of_connector? hc) (fun hidle => by cases hidle)
    have hloose := h.isLoose_setConnector { c with transaction := noTransaction } hc ha rfl
      (fun hidle => by cases hidle)
    rw [htx, ← hid] at hloose
    rw [← hid] at hr
    simp only [registry_order, database, storage_order, registry_publish, storage_publish]
    exact hput.settle hloose hr
  | @closeLoose _ t t' now hr ho hid hs hi hf hc =>
    rw [record?_of_backed h] at hr
    have hloose := h.isLoose_of_record hr hc
    rw [← hid] at hr hloose
    simp only [registry_order, database, storage_order, registry_publish, storage_publish]
    exact h.settle hloose hr
  | @discard _ t hr hf =>
    rw [record?_of_backed h] at hr
    exact h.removeTransaction (h.isLoose_of_isFinished hr hf)
  | @limit _ station c _ amps hc =>
    have hlim : l.database.limitConnector station c.id amps =
        l.database.putConnector station { c with limit := amps } := by
      rw [Database.limitConnector, ← h.connector, hc]
      rfl
    simp only [registry_setDatabase, database, storage_setDatabase, hlim]
    exact h.setConnector (knows_of_connector? hc) fun ha => h.linked _ _ c hc ha

/-- As long as the ids do not run out, the database goes on backing the registry, and the highest id
on record goes up with each id that is taken. -/
theorem Changes.backed {settings : Settings} {sharing : Bool} {n : Nat} {l l' : Ledger}
    (hc : Changes settings sharing n l l') (h : l.registry.Backed l.database)
    (hn : l.database.highestId + n ≤ 2 ^ 31 - 1) :
    l'.registry.Backed l'.database ∧ l'.database.highestId = l.database.highestId + n := by
  refine ⟨?_, (hc.counts (keyed_of_backed h) h.counts hn).2⟩
  induction hc with
  | refl => exact h
  | tail hs hstep ih =>
    have hhigh := (hs.counts (keyed_of_backed h) h.counts (by omega)).2
    exact hstep.backed (ih h (by omega)) (by omega)

end CentralSystem
