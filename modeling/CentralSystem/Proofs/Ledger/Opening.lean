import CentralSystem.Proofs.Ledger.Outcome
import CentralSystem.Proofs.Ledger.Refusal

namespace CentralSystem

namespace Registry

/-- The transaction that a connector has. -/
def running? (r : Registry) (s : String) (i : UInt32) : Option Int32 :=
  ((r.connector? s i).filter (·.isActive)).map (·.transaction)

theorem running?_eq_some_iff {r : Registry} {s : String} {i : UInt32} {id : Int32} :
    r.running? s i = some id ↔
      ∃ c, r.connector? s i = some c ∧ c.isActive = true ∧ c.transaction = id := by
  simp only [running?, Option.map_eq_some_iff, Option.filter_eq_some_iff, and_assoc]

theorem running?_eq_some_iff_getD {r : Registry} {s : String} {i : UInt32} {id : Int32} :
    r.running? s i = some id ↔ ((r.connector? s i).getD { id := i }).isActive = true ∧
      ((r.connector? s i).getD { id := i }).transaction = id := by
  rw [running?_eq_some_iff]
  cases r.connector? s i with
  | none => simp [Connector.isActive, noTransaction]
  | some c => simp

namespace Backed

variable {r : Registry} {db : Database} (h : r.Backed db)
include h

theorem id_getD_connector? (s : String) (i : UInt32) :
    ((r.connector? s i).getD { id := i }).id = i := by
  cases hc : r.connector? s i with
  | none => rfl
  | some c => exact h.id_of_connector hc

theorem record_of_running? (hlt : db.highestId < 2 ^ 31 - 1) {s : String} {i : UInt32} {id : Int32}
    (hrun : r.running? s i = some id) :
    id ≠ r.nextId ∧ ∃ t, db.transactions.get? id = some t ∧ t.isFinished = false := by
  obtain ⟨c, hc, ha, rfl⟩ := running?_eq_some_iff.1 hrun
  obtain ⟨t, ht, ho, -⟩ := h.record_of_isActive hc ha
  exact ⟨h.transaction_ne_nextId hlt hc ha, t, ht, ho⟩

end Backed

end Registry

theorem Glance.start_of_accepted {settings : Settings} {station : String} {g : Glance}
    (hknown : g.chargePoint.isSome = true) {r : Request.StartTransaction} {info : IdTagInfo}
    {id : Int32} (h : (g.start settings station r).1 = .startTransaction info id)
    (haccepted : info.status = .accepted) :
    id = g.nextId ∧ (g.start settings station r).2 =
      provision settings r.idTag ++
        ((if g.connector.isSome then [] else [.put station { id := r.connectorId }]) ++
          occupation station (g.connector.getD { id := r.connectorId })
            (Ledger.newTransaction station g.nextId r g.tag)) := by
  simp only [start, hknown, ↓reduceIte] at h ⊢
  split at h
  · obtain ⟨rfl, -⟩ := Response.startTransaction.inj h
    cases haccepted
  · next hfree =>
    obtain ⟨-, rfl⟩ := Response.startTransaction.inj h
    rw [if_neg hfree]
    exact ⟨rfl, rfl⟩

namespace Ledger

/-- What the start of a transaction comes to, where this is its record. -/
structure Starts (settings : Settings) (t : Transaction) (l l' : Ledger) : Prop where
  next : t.id = l.registry.nextId ∧ l'.registry.nextId = l.registry.nextId + 1
  fresh : l.registry.transactions.get? t.id = none ∧ l.database.transactions.get? t.id = none
  recorded : l'.database.transactions = l.database.transactions.insert t.id t
  held : ∀ id, l'.registry.transactions.get? id =
    if id = t.id then some t
    else if l.registry.running? t.chargePoint t.connector = some id then none
    else l.registry.transactions.get? id
  /-- The transaction that the connector had is not closed: it stays on record as it is. -/
  displaced : ∀ id, l.registry.running? t.chargePoint t.connector = some id → id ≠ t.id ∧
    ∃ t₀, l.database.transactions.get? id = some t₀ ∧
      l'.database.transactions.get? id = some t₀ ∧ t₀.isFinished = false
  connector : ∀ s i, l'.registry.connector? s i =
    if s = t.chargePoint ∧ i = t.connector then
      some { (l.registry.connector? s i).getD { id := i } with transaction := t.id }
    else l.registry.connector? s i
  stored : ∀ s i, l'.database.connector? s i =
    if s = t.chargePoint ∧ i = t.connector then
      some { (l.database.connector? s i).getD { id := i } with transaction := t.id }
    else l.database.connector? s i
  chargePoint : ∀ s, l'.registry.chargePoint? s = l.registry.chargePoint? s
  database : l'.database = { l.database with
    connectors := l'.database.connectors
    transactions := l'.database.transactions
    tags :=
      if settings.autoRegisterTags && !t.idTag.isEmpty then
        l.database.tags.provide t.idTag (.onFirstUse t.idTag)
      else l.database.tags }

theorem Starts.congr {settings : Settings} {t : Transaction} {l l' l'' : Ledger}
    (h : Starts settings t l l') (hbooks : l''.books = l'.books) : Starts settings t l l'' := by
  have hr : l''.registry = l'.registry := congrArg (·.registry) hbooks
  have hdb : l''.database = l'.database := congrArg (·.database) hbooks
  exact
    { next := by rw [hr]; exact h.next
      fresh := h.fresh
      recorded := by rw [hdb]; exact h.recorded
      held := by rw [hr]; exact h.held
      displaced := by rw [hdb]; exact h.displaced
      connector := by rw [hr]; exact h.connector
      stored := by rw [hdb]; exact h.stored
      chargePoint := by rw [hr]; exact h.chargePoint
      database := by rw [hdb]; exact h.database }

/-- What is at hand once a start has provided its connector. -/
structure Provides (station : String) (i : UInt32) (l m : Ledger) : Prop where
  transactions : m.registry.transactions = l.registry.transactions
  nextId : m.registry.nextId = l.registry.nextId
  chargePoint : ∀ s, m.registry.chargePoint? s = l.registry.chargePoint? s
  connector : ∀ s j, m.registry.connector? s j =
    if s = station ∧ j = i then some ((l.registry.connector? s j).getD { id := j })
    else l.registry.connector? s j
  stored : ∀ s j, m.database.connector? s j =
    if s = station ∧ j = i then some ((l.database.connector? s j).getD { id := j })
    else l.database.connector? s j
  database : m.database = { l.database with connectors := m.database.connectors }

section Provides

variable {settings : Settings} {station : String} {l m : Ledger} {i : UInt32}

theorem provides_put (hknown : l.registry.knows station = true)
    (hsame : l.registry.connector? station i = l.database.connector? station i) :
    Provides station i l (l.postAll (if (l.registry.connector? station i).isSome then []
      else [.put station { id := i }])) := by
  cases hc : l.registry.connector? station i with
  | some c =>
    have hdb := hsame.symm.trans hc
    simp only [Option.isSome_some, ↓reduceIte]
    refine ⟨rfl, rfl, fun _ => rfl, fun s j => ?_, fun s j => ?_, rfl⟩
    · split
      · next h => rw [h.1, h.2, hc]; exact hc
      · rfl
    · split
      · next h => rw [h.1, h.2, hdb]; exact hdb
      · rfl
  | none =>
    have hdb := hsame.symm.trans hc
    refine ⟨rfl, rfl, Registry.chargePoint?_setConnector _ _, fun s j => ?_, fun s j => ?_, rfl⟩
    · refine (Registry.connector?_setConnector hknown _ s j).trans ?_
      split
      · next h => rw [h.1, h.2, hc]; rfl
      · rfl
    · refine (Database.connector?_putConnector _ _ s j).trans ?_
      split
      · next h => rw [h.1, h.2, hdb]; rfl
      · rfl

theorem postAll_provision (settings : Settings) (l : Ledger) (idTag : String) :
    l.postAll (Glance.provision settings idTag) = l.setDatabase { l.database with
      tags :=
        if settings.autoRegisterTags && !idTag.isEmpty then
          l.database.tags.provide idTag (.onFirstUse idTag)
        else l.database.tags } := by
  unfold Glance.provision
  split <;> rfl

theorem postAll_occupation (m : Ledger) (c : Connector) (t : Transaction) :
    let l' := m.postAll (Glance.occupation t.chargePoint c t)
    let c' := { c with transaction := t.id }
    let transactions := m.registry.transactions.insert t.id t
    l'.registry.stations = (m.registry.setConnector t.chargePoint c').stations ∧
      l'.registry.nextId = m.registry.nextId + 1 ∧
      l'.registry.transactions =
        (if c.isActive then transactions.erase c.transaction else transactions) ∧
      l'.database = (m.database.addTransaction t).putConnector t.chargePoint c' := by
  unfold Glance.occupation
  split <;> exact ⟨rfl, rfl, rfl, rfl⟩

theorem get?_held (hb : l.registry.Backed l.database)
    (hlt : l.database.highestId < 2 ^ 31 - 1) {t : Transaction} (hid : t.id = l.registry.nextId)
    (id : Int32) :
    let c := (l.registry.connector? t.chargePoint t.connector).getD { id := t.connector }
    let transactions := l.registry.transactions.insert t.id t
    (if c.isActive then transactions.erase c.transaction else transactions).get? id =
      if id = t.id then some t
      else if l.registry.running? t.chargePoint t.connector = some id then none
      else l.registry.transactions.get? id := by
  intro c transactions
  have hrunning (id : Int32) : l.registry.running? t.chargePoint t.connector = some id ↔
      c.isActive = true ∧ c.transaction = id := Registry.running?_eq_some_iff_getD
  have hinsert : transactions.get? id =
      if id = t.id then some t else l.registry.transactions.get? id := Table.get?_insert ..
  cases ha : c.isActive with
  | false =>
    have hidle : l.registry.running? t.chargePoint t.connector ≠ some id := by simp [hrunning, ha]
    rw [if_neg hidle]
    exact hinsert
  | true =>
    have hrun := (hrunning c.transaction).2 ⟨ha, rfl⟩
    obtain ⟨hne, -⟩ := hb.record_of_running? hlt hrun
    rw [hrun, if_pos rfl, Table.get?_erase]
    by_cases hdisplaced : id = c.transaction
    · rw [if_pos hdisplaced, hdisplaced, hid, if_neg hne, if_pos rfl]
    · rw [if_neg hdisplaced, if_neg fun he => hdisplaced (Option.some.inj he).symm]
      exact hinsert

theorem Provides.connector?_relink (hm : Provides station i l m)
    (hknown : m.registry.knows station = true)
    (hid : ((l.registry.connector? station i).getD { id := i }).id = i) (id : Int32) (s : String)
    (j : UInt32) :
    let c := (l.registry.connector? station i).getD { id := i }
    (m.registry.setConnector station { c with transaction := id }).connector? s j =
      if s = station ∧ j = i then
        some { (l.registry.connector? s j).getD { id := j } with transaction := id }
      else l.registry.connector? s j := by
  intro c
  refine (Registry.connector?_setConnector hknown _ s j).trans ?_
  rw [hm.connector]
  by_cases h : s = station ∧ j = i
  · rw [if_pos (hid.symm ▸ h), if_pos h, h.1, h.2]
  · rw [if_neg (hid.symm ▸ h), if_neg h, if_neg h]

theorem Provides.stored_relink (hm : Provides station i l m)
    (hsame : l.registry.connector? station i = l.database.connector? station i)
    (hid : ((l.registry.connector? station i).getD { id := i }).id = i) (id : Int32) (s : String)
    (j : UInt32) :
    let c := (l.registry.connector? station i).getD { id := i }
    (m.database.putConnector station { c with transaction := id }).connector? s j =
      if s = station ∧ j = i then
        some { (l.database.connector? s j).getD { id := j } with transaction := id }
      else l.database.connector? s j := by
  intro c
  rw [Database.connector?_putConnector]
  by_cases h : s = station ∧ j = i
  · rw [if_pos (hid.symm ▸ h), if_pos h, h.1, h.2, ← hsame]
  · rw [if_neg (hid.symm ▸ h), if_neg h]
    exact (hm.stored s j).trans (if_neg h)

theorem starts_occupation (hb : l.registry.Backed l.database)
    (hlt : l.database.highestId < 2 ^ 31 - 1) {t : Transaction} (hid : t.id = l.registry.nextId)
    (hknown : l.registry.knows t.chargePoint = true)
    (hm : Provides t.chargePoint t.connector
      (l.postAll (Glance.provision settings t.idTag)) m) :
    Starts settings t l (m.postAll (Glance.occupation t.chargePoint
      ((l.registry.connector? t.chargePoint t.connector).getD { id := t.connector }) t)) := by
  rw [postAll_provision] at hm
  have hmk : m.registry.knows t.chargePoint = true := by
    rw [knows_eq_isSome, hm.chargePoint]
    exact (knows_eq_isSome ..).symm.trans hknown
  have hfresh : l.database.transactions.get? t.id = none := hid ▸ hb.get?_nextId hlt
  have hnew : ¬m.database.transactions.contains t.id = true := by
    rw [hm.database]
    simp [Table.contains, setDatabase, hfresh]
  obtain ⟨hstations, hnext, hheld, hdb⟩ := postAll_occupation m
    ((l.registry.connector? t.chargePoint t.connector).getD { id := t.connector }) t
  rw [Database.addTransaction, if_neg hnew] at hdb
  -- What was posted plays no part any more, only what it has come to.
  generalize m.postAll _ = l' at hstations hnext hheld hdb ⊢
  have hrecorded : l'.database.transactions = l.database.transactions.insert t.id t := by
    rw [hdb, Database.putConnector, Database.putTransaction, hm.database]
    rfl
  refine
    { next := ⟨hid, hnext.trans (congrArg (· + 1) hm.nextId)⟩
      fresh := ⟨?_, hfresh⟩
      recorded := hrecorded
      held := fun id => ?_
      displaced := fun id hrun => ?_
      connector := fun s i => ?_
      stored := fun s i => ?_
      chargePoint := fun s => ?_
      database := ?_ }
  · cases ht : l.registry.transactions.get? t.id with
    | none => rfl
    | some t₀ =>
      rw [(hb.transaction _ _ ht).1] at hfresh
      cases hfresh
  · rw [hheld, hm.transactions]
    exact get?_held hb hlt hid id
  · obtain ⟨hne, t₀, ht₀, ho⟩ := hb.record_of_running? hlt hrun
    rw [hid, hrecorded]
    exact ⟨hne, t₀, ht₀, (Table.get?_insert ..).trans (if_neg (hid ▸ hne)) |>.trans ht₀, ho⟩
  · rw [Registry.connector?, hstations]
    exact hm.connector?_relink hmk (hb.id_getD_connector? _ _) t.id s i
  · rw [hdb]
    exact hm.stored_relink (hb.connector _ _) (hb.id_getD_connector? _ _) t.id s i
  · rw [Registry.chargePoint?, hstations]
    exact (Registry.chargePoint?_setConnector ..).trans (hm.chargePoint s)
  · rw [hdb, hm.database]
    rfl

end Provides

section Start

variable {settings : Settings} {l : Ledger} (now : Timestamp) {station : String}
  (hw : l.storage.broken = []) (hb : l.registry.Backed l.database)
  (hlt : l.database.highestId < 2 ^ 31 - 1) (hknown : l.registry.knows station = true)
include hw hb hlt hknown

theorem starts_answer {r : Request.StartTransaction} {info : IdTagInfo} {id : Int32}
    (hresponse : (l.answer settings now station (.startTransaction r)).1 =
      .startTransaction info id) (haccepted : info.status = .accepted) :
    Starts settings
      { id, chargePoint := station, connector := r.connectorId, idTag := r.idTag
        username := (l.tagFor settings r.idTag).elim "" (·.username)
        userNote := (l.tagFor settings r.idTag).elim "" (·.note)
        meterStart := r.meterStart, meterStop := r.meterStart, timeStart := r.timestamp
        timeStop := none, reservation := r.reservationId, isFinished := false, reason := none }
      l (l.answer settings now station (.startTransaction r)).2 := by
  obtain ⟨hfst, hbooks⟩ : ComesTo l (l.answer settings now station (.startTransaction r)) _ :=
    start_eq station hw r
  have hseat : (l.glance settings station (.startTransaction r)).chargePoint.isSome = true :=
    (knows_eq_isSome ..).symm.trans hknown
  obtain ⟨rfl, hentries⟩ := Glance.start_of_accepted hseat (hfst.symm.trans hresponse) haccepted
  rw [hentries, postAll_append, postAll_append] at hbooks
  have hm : Provides station r.connectorId (l.postAll (Glance.provision settings r.idTag)) _ :=
    provides_put (by rw [postAll_provision]; exact hknown)
      (by rw [postAll_provision]; exact hb.connector station r.connectorId)
  rw [postAll_provision] at hm hbooks
  exact (starts_occupation hb hlt rfl hknown (by rw [postAll_provision]; exact hm)).congr hbooks

end Start

end Ledger

/-- On a run from a load, each start that a known charge point asks for and that is accepted opens
the transaction that it asks for. -/
theorem starts_runHandlers {db : Database} (hc : db.Consistent) :
    ∃ l, Ledger.load { database := db } = .ok l ∧ ∀ h : Hub, h.plant.ledger = l →
      ∀ ws, db.highestId + opened (h.runHandlers ws).1 < 2 ^ 31 - 1 →
        ∀ settings now station (r : Request.StartTransaction) info id,
          let l := (h.runHandlers ws).2.plant.ledger
          let answer := l.answer settings now station (.startTransaction r)
          l.registry.knows station = true → answer.1 = .startTransaction info id →
          info.status = .accepted →
            Ledger.Starts settings
              { id, chargePoint := station, connector := r.connectorId, idTag := r.idTag
                username := (l.tagFor settings r.idTag).elim "" (·.username)
                userNote := (l.tagFor settings r.idTag).elim "" (·.note)
                meterStart := r.meterStart, meterStop := r.meterStart, timeStart := r.timestamp
                timeStop := none, reservation := r.reservationId, isFinished := false
                reason := none }
              l answer.2 := by
  obtain ⟨l, hl, hrun⟩ := backed_runHandlers hc
  refine ⟨l, hl, fun h hh ws hn settings now station r info id => ?_⟩
  intro l' answer hknown hresponse haccepted
  obtain ⟨hb, hhigh, hw⟩ := hrun h hh ws (by omega)
  exact Ledger.starts_answer now hw hb (by omega) hknown hresponse haccepted

theorem starts_runHandlers_depot :
    let l := (Hub.depot.runHandlers (HandlerStep.depot .epoch)).2.plant.ledger
    let answer := l.answer Hub.depot.settings .epoch "south" (.startTransaction .visit)
    answer.1 = .startTransaction (.ofStatus .accepted) 9 ∧
      l.registry.running? "south" 1 = some 8 ∧
      answer.2.registry.transactions.get? 8 = none ∧
      answer.2.database.transactions.get? 8 = l.database.transactions.get? 8 ∧
      (answer.2.database.transactions.get? 9).map (fun t => (t.chargePoint, t.idTag)) =
        some ("south", "visitor") := by
  intro l answer
  obtain ⟨loaded, hl, hrun⟩ := starts_runHandlers Database.consistent_depot
  obtain rfl : Ledger.depot = loaded := Except.ok.inj (Ledger.load_depot.symm.trans hl)
  have hresponse : answer.1 = .startTransaction (.ofStatus .accepted) 9 := by decide +kernel
  have hbusy : l.registry.running? "south" 1 = some 8 := by decide +kernel
  have hstarts := hrun .depot rfl (HandlerStep.depot .epoch) (by rw [opened_depot]; decide)
    Hub.depot.settings .epoch "south" .visit _ _ (by decide +kernel) hresponse rfl
  obtain ⟨-, t₀, hbefore, hafter, -⟩ := hstarts.displaced 8 hbusy
  refine ⟨hresponse, hbusy, ?_, hafter.trans hbefore.symm, ?_⟩
  · exact (hstarts.held 8).trans ((if_neg (by decide)).trans (if_pos hbusy))
  · rw [hstarts.recorded, Table.get?_insert, if_pos rfl]
    rfl

end CentralSystem
