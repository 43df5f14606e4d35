import CentralSystem.Proofs.Ledger.Answer

namespace CentralSystem

/-- The transaction id that a response gives out. -/
def Response.openedId? : Response → Option Int32
  | .startTransaction info id => if info.status = .accepted then some id else none
  | _ => none

theorem Response.opened_eq_length (r : Response) : r.opened = r.openedId?.toList.length := by
  cases r with
  | startTransaction info id =>
    simp only [opened, openedId?]
    split <;> rfl
  | _ => rfl

/-- A registry that counts right: each record of the database stands under its own key, no id on
record is negative, and the counter is above all of them as long as there is an id above. -/
structure Registry.Counts (r : Registry) (db : Database) : Prop where
  keyed : db.Keyed
  nonneg : ∀ id t, db.transactions.get? id = some t → 0 ≤ id.toInt
  nextId : db.highestId < 2 ^ 31 - 1 → r.nextId.toInt = db.highestId + 1

namespace Ledger

structure KeepsIds (l l' : Ledger) : Prop where
  nextId : l'.registry.nextId = l.registry.nextId
  contains : ∀ id, l'.database.transactions.contains id = l.database.transactions.contains id

/-- The next id goes on record, and the counter goes on. -/
structure TakesId (l l' : Ledger) : Prop where
  nextId : l'.registry.nextId = l.registry.nextId + 1
  contains : ∀ id, l'.database.transactions.contains id =
    (id == l.registry.nextId || l.database.transactions.contains id)

theorem KeepsIds.of_eq {l l' : Ledger} (hn : l'.registry.nextId = l.registry.nextId)
    (ht : l'.database.transactions = l.database.transactions) : l.KeepsIds l' :=
  ⟨hn, fun id => by rw [ht]⟩

theorem KeepsIds.trans {l l' l'' : Ledger} (h : l.KeepsIds l') (h' : l'.KeepsIds l'') :
    l.KeepsIds l'' :=
  ⟨h'.nextId.trans h.nextId, fun id => (h'.contains id).trans (h.contains id)⟩

end Ledger

namespace Registry.Counts

variable {r r' : Registry} {db db' : Database} (h : r.Counts db)
include h

theorem highestId_nonneg : 0 ≤ db.highestId := by
  rw [Database.highestId]
  cases hl : db.lastTransaction? with
  | none => exact Int.le_refl 0
  | some t => exact h.nonneg _ _ (Database.get?_lastTransaction? h.keyed hl)

theorem get?_nextId (hlt : db.highestId < 2 ^ 31 - 1) : db.transactions.get? r.nextId = none := by
  have hnext := h.nextId hlt
  cases ht : db.transactions.get? r.nextId with
  | none => rfl
  | some t =>
    have hle := Database.le_highestId h.keyed ht
    omega

theorem keep (hk : db'.Keyed) (hn : r'.nextId = r.nextId)
    (hc : ∀ id, db'.transactions.contains id = db.transactions.contains id) :
    r'.Counts db' ∧ db'.highestId = db.highestId := by
  have hhigh := Database.highestId_congr h.keyed hk hc
  refine ⟨⟨hk, fun id t ht => ?_, ?_⟩, hhigh⟩
  · obtain ⟨t', ht'⟩ := Table.contains_iff.1 ((hc id).symm.trans (Table.contains_iff.2 ⟨t, ht⟩))
    exact h.nonneg id t' ht'
  · rw [hhigh, hn]
    exact h.nextId

theorem take (hlt : db.highestId < 2 ^ 31 - 1) (hk : db'.Keyed) (hn : r'.nextId = r.nextId + 1)
    (hc : ∀ id, db'.transactions.contains id =
      (id == r.nextId || db.transactions.contains id)) :
    r'.Counts db' ∧ db'.highestId = db.highestId + 1 := by
  have hpos := h.highestId_nonneg
  have hnext := h.nextId hlt
  have hold {id : Int32} {t : Transaction} (ht : db'.transactions.get? id = some t) :
      id = r.nextId ∨ ∃ t', db.transactions.get? id = some t' := by
    have hid := (hc id).symm.trans (Table.contains_iff.2 ⟨t, ht⟩)
    simpa [Table.contains_iff] using hid
  have hhigh : db'.highestId = db.highestId + 1 := by
    obtain ⟨t, ht⟩ := Table.contains_iff.1 ((hc r.nextId).trans (by simp))
    rw [← hnext]
    refine Database.highestId_eq hk ht fun id' t' ht' => ?_
    rcases hold ht' with rfl | ⟨_, ht''⟩
    · exact Int.le_refl _
    · have hle := Database.le_highestId h.keyed ht''
      omega
  refine ⟨⟨hk, fun id t ht => ?_, fun hlt' => ?_⟩, hhigh⟩
  · rcases hold ht with rfl | ⟨t', ht'⟩
    · omega
    · exact h.nonneg id t' ht'
  · rw [hhigh] at hlt' ⊢
    rw [hn, Int32.toInt_add, hnext, Int32.toInt_one]
    exact Int.bmod_eq_of_le (by omega) (by omega)

end Registry.Counts

open Ledger

theorem Change.numbers {settings : Settings} {sharing : Bool} {n : Nat} {l l' : Ledger}
    (hc : Change settings sharing n l l') :
    n = 0 ∧ l.KeepsIds l' ∨ n = 1 ∧ l.TakesId l' := by
  have hadd {t : Transaction} (hid : t.id = l.registry.nextId) (id : Int32) :
      (l.database.addTransaction t).transactions.contains id =
        (id == l.registry.nextId || l.database.transactions.contains id) :=
    hid ▸ Database.contains_addTransaction t id
  cases hc with
  | publish => exact .inl ⟨rfl, .of_eq rfl rfl⟩
  | tag => exact .inl ⟨rfl, .of_eq rfl rfl⟩
  | samples samples =>
    obtain ⟨s, hs⟩ := Database.foldl_addSample samples l.database
    exact .inl ⟨rfl, .of_eq rfl (by simp only [database, storage_setDatabase, hs])⟩
  | enroll =>
    exact .inl ⟨rfl, .of_eq (Registry.nextId_register _) (Database.transactions_addChargePoint _)⟩
  | see => exact .inl ⟨rfl, .of_eq rfl rfl⟩
  | amend => exact .inl ⟨rfl, .of_eq rfl (Database.transactions_updateChargePoint _)⟩
  | report => exact .inl ⟨rfl, .of_eq rfl rfl⟩
  | release =>
    refine .inl ⟨rfl, .of_eq ?_ ?_⟩
    · rw [registry_order]
      rfl
    · rw [database, storage_order]
      rfl
  | enter hid =>
    refine .inr ⟨rfl, ?_, fun id => ?_⟩
    · rw [registry_order]
      rfl
    · rw [database, storage_order]
      exact hadd hid id
  | occupy hid =>
    refine .inr ⟨rfl, ?_, fun id => ?_⟩
    · rw [registry_order]
      rfl
    · rw [database, storage_order]
      exact hadd hid id
  | displace hid =>
    refine .inr ⟨rfl, ?_, fun id => ?_⟩
    · rw [registry_order, registry_publish, registry_order]
      rfl
    · rw [database, storage_order, storage_publish, storage_order]
      exact hadd hid id
  | close =>
    refine .inl ⟨rfl, ?_, fun id => ?_⟩
    · rw [registry_order]
      rfl
    · rw [database, storage_order]
      exact Database.contains_updateTransaction _ id
  | closeLoose =>
    refine .inl ⟨rfl, ?_, fun id => ?_⟩
    · rw [registry_order]
      rfl
    · rw [database, storage_order]
      exact Database.contains_updateTransaction _ id
  | discard => exact .inl ⟨rfl, .of_eq rfl rfl⟩
  | limit => exact .inl ⟨rfl, .of_eq rfl rfl⟩

theorem Changes.keepsIds {settings : Settings} {sharing : Bool} {n : Nat} {l l' : Ledger}
    (hc : Changes settings sharing n l l') (hn : n = 0) : l.KeepsIds l' := by
  induction hc with
  | refl => exact .of_eq rfl rfl
  | tail _ hstep ih =>
    obtain ⟨rfl, hkeeps⟩ | ⟨rfl, -⟩ := hstep.numbers
    · exact (ih hn).trans hkeeps
    · omega

namespace Ledger

section Whole

variable {settings : Settings} {l : Ledger} (now : Timestamp) (station : String)
  (hw : l.storage.broken = [])
include hw

theorem transactions_resolveTag (settings : Settings) (idTag : String) :
    (l.resolveTag settings idTag).2.database.transactions = l.database.transactions := by
  unfold resolveTag
  split
  · rfl
  · simp only [Storage.tag?, Storage.attempt_of_broken_eq_nil hw]
    split
    · rfl
    · rfl
    · split
      · rw [database, storage_of_quiet (quiet_addTag hw (.tagNotPersisted idTag) _)]
        rfl
      · rfl

theorem transactions_provideConnector (id : UInt32) :
    (l.provideConnector station id).2.storage.broken = [] ∧
      (l.provideConnector station id).2.registry.nextId = l.registry.nextId ∧
      (l.provideConnector station id).2.database.transactions = l.database.transactions := by
  unfold provideConnector
  split
  · exact ⟨hw, rfl, rfl⟩
  · have hq := quiet_addConnector
      (l := l.setRegistry (l.registry.setConnector station { id := id })) hw
      (.notPersisted "add_connector" station) station { id := id }
    rw [setRegistry] at hq
    rw [database, storage_of_quiet hq, registry_of_quiet hq]
    exact ⟨hw, rfl, rfl⟩

theorem transactions_occupy (c : Connector) (r : Request.StartTransaction) (tag : Option UserTag) :
    (l.occupy settings station c r tag).2.database.transactions =
      (l.database.addTransaction
        (newTransaction station l.registry.nextId r tag)).transactions := by
  rw [database, storage_of_quiet (quiet_occupy station hw c r tag), storage_order, storage_publish]
  split
  · rw [storage_order]
    rfl
  · rfl

theorem start_of_openedId? (r : Request.StartTransaction) {id : Int32}
    (h : (l.start settings station r).1.openedId? = some id) :
    id = l.registry.nextId ∧ ∃ tag,
      (l.start settings station r).2.database.transactions =
        (l.database.addTransaction (newTransaction station id r tag)).transactions := by
  obtain ⟨hchanges, hr⟩ : Changes settings false 0 l.quiet (l.resolveTag settings r.idTag).2.quiet ∧
      (l.resolveTag settings r.idTag).2.registry = l.registry := changes_resolveTag hw r.idTag
  have ht := transactions_resolveTag hw settings r.idTag
  have hw' : (l.resolveTag settings r.idTag).2.storage.broken = [] := hchanges.broken.trans hw
  unfold start at h ⊢
  generalize l.resolveTag settings r.idTag = resolved at h hr ht hw' ⊢
  obtain ⟨tag, l₁⟩ := resolved
  simp only at h hr ht hw' ⊢
  have hadd {d : Database} (hd : d.transactions = l.database.transactions) (t : Transaction) :
      (d.addTransaction t).transactions = (l.database.addTransaction t).transactions := by
    simp only [Database.addTransaction, apply_ite Database.transactions, Database.putTransaction,
      hd]
  cases hk : l₁.registry.knows station with
  | false =>
    simp only [hk, Bool.false_eq_true, ↓reduceIte] at h ⊢
    obtain rfl : l.registry.nextId = id := hr ▸ Option.some.inj h
    have ho := quiet_openTransaction
      (l := l₁.note (.unknownStation .startTransaction station)) hw' station r tag
    refine ⟨rfl, tag, ?_⟩
    rw [announce, database, storage_order, storage_publish, storage_of_quiet ho, ← hr]
    exact hadd ht _
  | true =>
    simp only [hk, ↓reduceIte] at h ⊢
    obtain ⟨hwp, hn, hp⟩ := transactions_provideConnector station hw' r.connectorId
    generalize l₁.provideConnector station r.connectorId = provided at h hwp hn hp ⊢
    obtain ⟨c, l₂⟩ := provided
    simp only at h hwp hn hp ⊢
    have hoccupy (m : Ledger) (hmr : m.registry = l₂.registry) (hms : m.storage = l₂.storage)
        (h : (m.occupy settings station c r tag).1.openedId? = some id) :
        id = l.registry.nextId ∧ ∃ tag',
          (m.occupy settings station c r tag).2.database.transactions =
            (l.database.addTransaction (newTransaction station id r tag')).transactions := by
      have hmn : m.registry.nextId = l.registry.nextId := by rw [hmr, hn, hr]
      obtain rfl : l.registry.nextId = id := hmn ▸ Option.some.inj h
      refine ⟨rfl, tag, ?_⟩
      rw [transactions_occupy station (hms ▸ hwp), hmn]
      exact hadd (by rw [database, hms]; exact hp.trans ht) _
    split at h
    · rename_i ha
      simp only [ha, ↓reduceIte]
      split at h
      · cases h
      · exact hoccupy (l₂.note (.busyConnector station c.id c.transaction)) rfl rfl h
    · rename_i ha
      simp only [ha, Bool.false_eq_true, ↓reduceIte]
      exact hoccupy l₂ rfl rfl h

end Whole

end Ledger

theorem Change.counts {settings : Settings} {sharing : Bool} {n : Nat} {l l' : Ledger}
    (hc : Change settings sharing n l l') (hk : l.Keyed) (h : l.registry.Counts l.database)
    (hn : l.database.highestId + n ≤ 2 ^ 31 - 1) :
    l'.registry.Counts l'.database ∧ l'.database.highestId = l.database.highestId + n := by
  have hk' := (hc.keyed hk).2
  obtain ⟨rfl, hkeeps⟩ | ⟨rfl, htakes⟩ := hc.numbers
  · obtain ⟨hlast, hhigh⟩ := h.keep hk' hkeeps.nextId hkeeps.contains
    exact ⟨hlast, hhigh.trans (Int.add_zero _).symm⟩
  · exact h.take (by omega) hk' htakes.nextId htakes.contains

theorem Changes.counts {settings : Settings} {sharing : Bool} {n : Nat} {l l' : Ledger}
    (hc : Changes settings sharing n l l') (hk : l.Keyed) (h : l.registry.Counts l.database)
    (hn : l.database.highestId + n ≤ 2 ^ 31 - 1) :
    l'.registry.Counts l'.database ∧ l'.database.highestId = l.database.highestId + n := by
  induction hc with
  | refl => exact ⟨h, (Int.add_zero _).symm⟩
  | tail hs hstep ih =>
    obtain ⟨hmid, hhigh⟩ := ih hk h (by omega)
    obtain ⟨hlast, hhigh'⟩ := hstep.counts (hs.preserve Change.keyed hk) hmid (by omega)
    exact ⟨hlast, by omega⟩

end CentralSystem
