import CentralSystem.Proofs.Ledger.Opening

namespace CentralSystem

/-- A load goes on behind the highest id on record, and stays on the last id there is if it is that
one. -/
theorem Registry.Loads.toInt_nextId {db : Database} {r : Registry} {known : String → Prop}
    {visited : String → UInt32 → Prop} (h : r.Loads db known visited) :
    r.nextId.toInt = min (db.highestId + 1) (2 ^ 31 - 1) := by
  rw [h.nextId, Database.highestId]
  cases db.lastTransaction? with
  | none => rfl
  | some t =>
    have hlow := t.id.le_toInt
    have hhigh := t.id.toInt_lt
    rw [Option.elim_some, Option.elim_some]
    by_cases hlast : t.id.toInt + 1 ≤ 2 ^ 31 - 1
    · have hclamp : (Int32.ofIntClamp (t.id.toInt + 1)).toInt = t.id.toInt + 1 :=
        Int32.toInt_ofIntClamp (by rw [Int32.toInt_minValue]; omega) hlast
      omega
    · have hmax : t.id.toInt = 2 ^ 31 - 1 := by omega
      rw [hmax]
      rfl

theorem Database.get?_eq_none_iff_of_next {db : Database} (hk : db.Keyed) {id : Int32}
    (hid : id.toInt = min (db.highestId + 1) (2 ^ 31 - 1)) :
    db.transactions.get? id = none ↔ db.highestId < 2 ^ 31 - 1 := by
  constructor
  · intro hnone
    by_contra hlast
    cases ht : db.lastTransaction? with
    | none =>
      rw [highestId, ht] at hlast
      exact hlast (by decide)
    | some t =>
      rw [highestId, ht, Option.elim_some] at hlast hid
      have hhigh := t.id.toInt_lt
      have hsame : t.id = id := Int32.toInt_inj.1 (by omega)
      rw [← hsame, get?_lastTransaction? hk ht] at hnone
      cases hnone
  · intro hlt
    cases ht : db.transactions.get? id with
    | none => rfl
    | some t =>
      have hle := le_highestId hk ht
      omega

namespace Ledger

/-- A start on an idle connector opens a transaction under an id: the connector is linked to it, in
store and on record, and it is put on record unless there is one of this id. -/
structure StartsAs (id : Int32) (t : Transaction) (l l' : Ledger) : Prop where
  held : l'.registry.transactions.get? id = some t
  recorded : l'.database.transactions = l.database.transactions.provide id t
  connector : l'.registry.connector? t.chargePoint t.connector = some
    { (l.registry.connector? t.chargePoint t.connector).getD { id := t.connector } with
      transaction := id }
  stored : l'.database.connector? t.chargePoint t.connector =
    l'.registry.connector? t.chargePoint t.connector

variable (settings : Settings) {l : Ledger} {station : String}

theorem exists_provided (hknown : l.registry.knows station = true)
    (r : Request.StartTransaction) : ∃ m : Ledger, m.registry.knows station = true ∧
      m.database.transactions = l.database.transactions ∧ ∀ es,
        l.postAll (Glance.provision settings r.idTag ++
          ((if (l.registry.connector? station r.connectorId).isSome then []
            else [.put station { id := r.connectorId }]) ++ es)) = m.postAll es := by
  refine ⟨_, ?_, ?_, fun es => by rw [postAll_append, postAll_append]⟩ <;>
    rw [postAll_provision] <;> cases (l.registry.connector? station r.connectorId).isSome
  · rw [knows_eq_isSome] at hknown ⊢
    exact (congrArg Option.isSome (Registry.chargePoint?_setConnector ..)).trans hknown
  · exact hknown
  · rfl
  · rfl

variable (now : Timestamp) (hw : l.storage.broken = []) (hk : l.registry.Keyed)
  (hknown : l.registry.knows station = true) {r : Request.StartTransaction}
  (hidle : l.registry.running? station r.connectorId = none)
include hw hk hknown hidle

theorem startsAs_answer :
    let answer := l.answer settings now station (.startTransaction r)
    answer.1 = .startTransaction (.ofStatus .accepted) l.registry.nextId ∧
      StartsAs l.registry.nextId
        (newTransaction station l.registry.nextId r (l.tagFor settings r.idTag)) l answer.2 := by
  intro answer
  generalize ht : newTransaction station l.registry.nextId r (l.tagFor settings r.idTag) = t
  generalize hc : (l.registry.connector? station r.connectorId).getD { id := r.connectorId } = c
  have hid : c.id = r.connectorId := by
    subst hc
    cases hc : l.registry.connector? station r.connectorId with
    | none => rfl
    | some c => exact hk.connector _ _ c hc
  have hoff : c.isActive = false := by
    subst hc
    by_contra ha
    rw [Registry.running?_eq_some_iff_getD.2 ⟨by simpa using ha, rfl⟩] at hidle
    cases hidle
  have hseat : (l.glance settings station (.startTransaction r)).chargePoint.isSome = true :=
    (knows_eq_isSome ..).symm.trans hknown
  have haccepted : ((l.glance settings station (.startTransaction r)).start settings station r).1 =
      .startTransaction (.ofStatus .accepted) l.registry.nextId := by
    simp only [Glance.start, hseat, ↓reduceIte]
    simp only [glance, hc, hoff, Bool.false_and, Bool.false_eq_true, ↓reduceIte]
    rfl
  obtain ⟨hresponse, hbooks⟩ : ComesTo l answer _ := start_eq station hw r
  obtain ⟨-, hentries⟩ := Glance.start_of_accepted hseat haccepted rfl
  obtain ⟨m, hmid, hsame, hposted⟩ := exists_provided settings hknown r
  have hcome : answer.2.books = (m.postAll (Glance.occupation station c t)).books := by
    rw [hbooks, hentries, ← hposted, ← hc, ← ht]
    rfl
  have hregistry : answer.2.registry = (m.postAll (Glance.occupation station c t)).registry :=
    congrArg (·.registry) hcome
  have hdatabase : answer.2.database = (m.postAll (Glance.occupation station c t)).database :=
    congrArg (·.database) hcome
  have hnew : t.id = l.registry.nextId := ht ▸ rfl
  have hstation : t.chargePoint = station := ht ▸ rfl
  have hplace : t.connector = r.connectorId := ht ▸ rfl
  rw [← hstation] at hregistry hdatabase hmid
  obtain ⟨hstations, -, hheld, hdb⟩ := postAll_occupation m c t
  rw [← hregistry] at hstations hheld
  rw [← hdatabase] at hdb
  have hconnector : answer.2.registry.connector? t.chargePoint t.connector =
      some { c with transaction := t.id } := by
    rw [Registry.connector?, hstations]
    exact (Registry.connector?_setConnector hmid _ _ _).trans (if_pos ⟨rfl, hplace.trans hid.symm⟩)
  rw [← hnew]
  refine ⟨hresponse.trans (haccepted.trans (hnew ▸ rfl)), ?_, ?_, ?_, ?_⟩
  · rw [hheld, hoff]
    exact (Table.get?_insert ..).trans (if_pos rfl)
  · rw [hdb, Database.addTransaction_eq_provide, ← hsame]
    rfl
  · rw [hconnector, hstation, hplace, hc]
  · rw [hconnector, hdb, Database.connector?_putConnector]
    exact if_pos ⟨rfl, hplace.trans hid.symm⟩

end Ledger

theorem Storage.addTransaction_ok_iff {s : Storage} (hw : s.broken = []) (t : Transaction) :
    (∃ s', s.addTransaction t = .ok s') ↔ s.database.transactions.get? t.id = none := by
  rw [addTransaction, write, attempt_of_broken_eq_nil hw, Table.contains]
  cases s.database.transactions.get? t.id with
  | none => exact iff_of_true ⟨_, rfl⟩ rfl
  | some _ => simp [Except.map]

/-- The first transaction that starts on an idle connector after a load takes the id behind the
highest one on record. There is none behind the last id, which is then taken again, while its record
stays; and if all ids on record are below -1, the new one is negative, so that the connector still
counts as idle. -/
theorem first_start_runHandlers {db : Database} (hk : db.Keyed) :
    ∃ l, Ledger.load { database := db } = .ok l ∧ ∀ h : Hub, h.plant.ledger = l →
      ∀ ws, opened (h.runHandlers ws).1 = 0 → ∀ settings now station (r : Request.StartTransaction),
        let l := (h.runHandlers ws).2.plant.ledger
        let answer := l.answer settings now station (.startTransaction r)
        l.registry.knows station = true → l.registry.running? station r.connectorId = none →
        ∃ id c, id.toInt = min (db.highestId + 1) (2 ^ 31 - 1) ∧
          let t := Ledger.newTransaction station id r (l.tagFor settings r.idTag)
          answer.1 = .startTransaction (.ofStatus .accepted) id ∧
          Ledger.StartsAs id t l answer.2 ∧
          (db.transactions.get? id = none ↔ db.highestId < 2 ^ 31 - 1) ∧
          ((∃ s, l.storage.addTransaction t = .ok s) ↔ db.highestId < 2 ^ 31 - 1) ∧
          answer.2.registry.connector? station r.connectorId = some c ∧ c.transaction = id ∧
          (0 ≤ id ↔ -1 ≤ db.highestId) ∧ (c.isActive = true ↔ -1 ≤ db.highestId) := by
  obtain ⟨l, hl, hstorage, hloads⟩ := Ledger.load_ok hk
  refine ⟨l, hl, ?_⟩
  rintro h rfl ws hn settings now station r l answer hknown hidle
  have hdb : h.plant.ledger.database = db := congrArg Storage.database hstorage
  have hw : h.plant.ledger.storage.broken = [] := by rw [hstorage]
  have hkl : h.plant.ledger.Keyed := ⟨hloads.keyed hk, hdb ▸ hk⟩
  have hkeeps := (Hub.changes_runHandlers hw hkl ws).keepsIds hn
  obtain ⟨hwhole, hkeyed⟩ := Hub.whole_runHandlers hw hkl ws
  obtain ⟨haccepted, hstarts⟩ :=
    Ledger.startsAs_answer settings now hwhole hkeyed.1 hknown hidle
  have hnext : l.registry.nextId = h.plant.ledger.registry.nextId := hkeeps.nextId
  have hid : l.registry.nextId.toInt = min (db.highestId + 1) (2 ^ 31 - 1) :=
    hnext ▸ hloads.toInt_nextId
  have hfree := Database.get?_eq_none_iff_of_next hk hid
  have hsame : l.database.transactions.get? l.registry.nextId = none ↔
      db.transactions.get? l.registry.nextId = none := by
    have hcontains := hkeeps.contains l.registry.nextId
    rw [← Option.not_isSome_iff_eq_none, ← Option.not_isSome_iff_eq_none, ← hdb]
    exact not_congr (Bool.eq_iff_iff.1 hcontains)
  have hsign : 0 ≤ l.registry.nextId ↔ -1 ≤ db.highestId := by
    rw [Int32.le_iff_toInt_le, Int32.toInt_zero]
    omega
  refine ⟨l.registry.nextId, _, hid, haccepted, hstarts, hfree, ?_, hstarts.connector, rfl, hsign, ?_⟩
  · exact (Storage.addTransaction_ok_iff hwhole _).trans (hsame.trans hfree)
  · rw [Connector.isActive, decide_eq_true_iff]
    exact hsign

theorem first_start_runHandlers_depot :
    let answer := Ledger.depot.answer Hub.depot.settings .epoch "south" (.startTransaction .visit)
    Database.depot.Keyed ∧ opened (Hub.depot.runHandlers []).1 = 0 ∧
      Ledger.depot.registry.knows "south" = true ∧
      Ledger.depot.registry.running? "south" 1 = none ∧
      answer.1 = .startTransaction (.ofStatus .accepted) 8 ∧
      ∃ c, answer.2.registry.connector? "south" 1 = some c ∧ c.isActive = true := by
  intro answer
  obtain ⟨l, hl, hrun⟩ := first_start_runHandlers Database.keyed_depot
  obtain rfl : Ledger.depot = l := Except.ok.inj (Ledger.load_depot.symm.trans hl)
  have hknown : Ledger.depot.registry.knows "south" = true := by decide +kernel
  have hidle : Ledger.depot.registry.running? "south" 1 = none := by decide +kernel
  have hhigh : Database.depot.highestId = 7 := by decide +kernel
  obtain ⟨id, c, hid, haccepted, -, -, -, hc, -, -, hactive⟩ :=
    hrun .depot rfl [] rfl Hub.depot.settings .epoch "south" .visit hknown hidle
  obtain rfl : id = 8 := Int32.toInt_inj.1 (hid.trans (by rw [hhigh]; rfl))
  exact ⟨Database.keyed_depot, rfl, hknown, hidle, haccepted, c, hc,
    hactive.2 (by rw [hhigh]; decide)⟩

def Database.fullDepot : Database := Database.depot.putTransaction
  { id := .maxValue, chargePoint := "south", connector := 1, idTag := "tag", meterStart := 0,
    timeStart := .epoch, isFinished := true }

def Ledger.fullDepot : Ledger := (Ledger.load { database := .fullDepot }).toOption.getD default

/-- The next transaction is started under the id of the closed one, and cannot be put on record. -/
theorem first_start_of_last_id :
    let l := Ledger.fullDepot
    let answer := l.answer Hub.depot.settings .epoch "south" (.startTransaction .visit)
    Ledger.load { database := .fullDepot } = .ok l ∧ l.registry.knows "south" = true ∧
      l.registry.running? "south" 1 = none ∧
      answer.1 = .startTransaction (.ofStatus .accepted) .maxValue ∧
      (Database.fullDepot.transactions.get? .maxValue).isSome = true ∧
      ¬∃ s, l.storage.addTransaction (Ledger.newTransaction "south" .maxValue .visit none) = .ok s := by
  intro l answer
  refine ⟨by decide +kernel, by decide +kernel, by decide +kernel, by decide +kernel,
    by decide +kernel, ?_⟩
  rw [Storage.addTransaction_ok_iff (by decide +kernel)]
  decide +kernel

end CentralSystem
