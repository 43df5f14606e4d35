import CentralSystem.Proofs.Service

namespace CentralSystem

/-- The transaction ids that these responses give out. -/
def openedIds (rs : List Response) : List Int32 := rs.filterMap Response.openedId?

theorem openedIds_append (rs rs' : List Response) :
    openedIds (rs ++ rs') = openedIds rs ++ openedIds rs' :=
  List.filterMap_append

theorem length_openedIds (rs : List Response) : (openedIds rs).length = opened rs := by
  induction rs with
  | nil => rfl
  | cons r rest ih =>
    rw [openedIds, List.filterMap_cons, opened, Response.opened_eq_length]
    cases r.openedId? with
    | none => simpa [openedIds] using ih
    | some id =>
      rw [openedIds] at ih
      simp [ih, Nat.add_comm]

namespace Ledger

/-- A transaction is opened under an id. Nothing was on record under it, the transaction can be
added, and it is on record from then on. -/
def Opens (l l' : Ledger) (id : Int32) : Prop :=
  ∃ t : Transaction, t.id = id ∧ t.isFinished = false ∧
    l.database.transactions.get? id = none ∧ (∃ s, l.storage.addTransaction t = .ok s) ∧
    l'.database.transactions = l.database.transactions.insert id t

variable {settings : Settings} {l : Ledger} (now : Timestamp) (station : String)
  (hw : l.storage.broken = [])
include hw

theorem opens_answer (hc : l.registry.Counts l.database)
    (hlt : l.database.highestId < 2 ^ 31 - 1) {r : Request} {id : Int32}
    (h : (l.answer settings now station r).1.openedId? = some id) :
    id = l.registry.nextId ∧ l.Opens (l.answer settings now station r).2 id := by
  cases r with
  | startTransaction r =>
    obtain ⟨rfl, tag, ht⟩ := start_of_openedId? station hw r h
    have hnone := hc.get?_nextId hlt
    generalize ht' : newTransaction station l.registry.nextId r tag = t at ht
    have hid : t.id = l.registry.nextId := ht' ▸ rfl
    have hfree : l.database.transactions.contains t.id = false := by
      rw [hid, Table.contains, hnone]
      rfl
    refine ⟨rfl, t, hid, ht' ▸ rfl, hnone,
      ⟨{ l.storage with database := l.database.putTransaction t }, ?_⟩, ht.trans ?_⟩
    · rw [Storage.addTransaction, Storage.write, Storage.attempt_of_broken_eq_nil hw, hfree]
      rfl
    · rw [Database.addTransaction, hfree, ← hid]
      rfl
  | bootNotification r =>
    simp only [answer, boot] at h
    split at h <;> cases h
  | stopTransaction r =>
    rw [answer, stop_fst] at h
    cases h
  | _ => cases h

end Ledger

namespace Hub

/-- A hub that counts right, over a storage that is whole. -/
structure Counts (h : Hub) : Prop where
  whole : h.plant.ledger.storage.broken = []
  keyed : h.plant.ledger.Keyed
  counts : h.plant.ledger.registry.Counts h.plant.ledger.database

namespace Counts

variable {h : Hub} (hs : h.Counts)
include hs

theorem handlerStep (now : Timestamp) (w : HandlerStep)
    (hn : h.plant.ledger.database.highestId + opened (h.handlerStep now w).1.toList ≤ 2 ^ 31 - 1) :
    (h.handlerStep now w).2.Counts ∧
      (h.handlerStep now w).2.plant.ledger.database.highestId =
        h.plant.ledger.database.highestId + opened (h.handlerStep now w).1.toList ∧
      ((h.handlerStep now w).1.bind Response.openedId? = none →
        h.plant.ledger.KeepsIds (h.handlerStep now w).2.plant.ledger) ∧
      ∀ id, (h.handlerStep now w).1.bind Response.openedId? = some id →
        id.toInt = h.plant.ledger.database.highestId + 1 ∧
        h.plant.ledger.Opens (h.handlerStep now w).2.plant.ledger id := by
  have hc := changes_handlerStep now hs.whole hs.keyed w
  obtain ⟨hcounts, hhigh⟩ := hc.counts hs.keyed hs.counts hn
  have hopened : opened (h.handlerStep now w).1.toList =
      ((h.handlerStep now w).1.bind Response.openedId?).toList.length := by
    cases (h.handlerStep now w).1 with
    | none => rfl
    | some response => exact response.opened_eq_length
  refine ⟨⟨hc.broken.trans hs.whole, hc.preserve (P := Ledger.Keyed) Change.keyed hs.keyed,
    hcounts⟩, hhigh, fun hnone => ?_, fun id hid => ?_⟩
  · have hkeeps := hc.keepsIds (by rw [hopened, hnone]; rfl)
    exact ⟨hkeeps.nextId, hkeeps.contains⟩
  · have hlt : h.plant.ledger.database.highestId < 2 ^ 31 - 1 := by
      rw [hopened, hid] at hn
      simp only [Option.toList_some, List.length_singleton] at hn
      omega
    cases w with
    | answer station r =>
      obtain ⟨rfl, hopens⟩ := Ledger.opens_answer now station hs.whole hs.counts hlt hid
      exact ⟨hs.counts.nextId hlt, hopens⟩
    | followUp station r => cases hid
    | balance station => cases hid

theorem restart : h.restart.Counts ∧
    h.restart.plant.ledger.database = h.plant.ledger.database := by
  obtain ⟨r, hloads, hreload⟩ := reload_ok hs.whole hs.keyed.2
  rw [Hub.restart, hreload]
  have hpos (id : Int32) (t : Transaction)
      (ht : h.plant.ledger.database.transactions.get? id = some t) : 0 ≤ id :=
    Int32.le_iff_toInt_le.2 (hs.counts.nonneg id t ht)
  exact ⟨⟨hs.whole, ⟨hloads.keyed hs.keyed.2, hs.keyed.2⟩, hloads.counts hs.keyed.2 hpos⟩, rfl⟩

theorem serviceStep (t : ServiceStep)
    (hn : h.plant.ledger.database.highestId + opened (h.serviceStep t).1 ≤ 2 ^ 31 - 1) :
    (h.serviceStep t).2.Counts ∧
      (h.serviceStep t).2.plant.ledger.database.highestId =
        h.plant.ledger.database.highestId + opened (h.serviceStep t).1 ∧
      ∀ (i : Nat) id, (openedIds (h.serviceStep t).1)[i]? = some id →
        id.toInt = h.plant.ledger.database.highestId + (i + 1) := by
  cases t with
  | restart =>
    obtain ⟨hcounts, hdb⟩ := hs.restart
    simp only [Hub.serviceStep, hdb]
    exact ⟨hcounts, (Int.add_zero _).symm, fun i id hid => by simp [openedIds] at hid⟩
  | drain =>
    exact ⟨⟨hs.whole, hs.keyed, hs.counts⟩, (Int.add_zero _).symm,
      fun i id hid => by simp [Hub.serviceStep, openedIds] at hid⟩
  | handler now w =>
    obtain ⟨hcounts, hhigh, -, hopens⟩ := hs.handlerStep now w hn
    refine ⟨hcounts, hhigh, fun i id hid => ?_⟩
    -- One piece of work has one response at most, so that its id is the first.
    simp only [Hub.serviceStep] at hid
    cases hr : (h.handlerStep now w).1 with
    | none => simp [hr, openedIds] at hid
    | some response =>
      cases ho : response.openedId? with
      | none => simp [hr, openedIds, ho] at hid
      | some id' =>
        simp only [hr, openedIds, Option.toList_some, List.filterMap_cons, ho, List.filterMap_nil,
          List.getElem?_singleton, Option.ite_none_right_eq_some, Option.some.injEq] at hid
        obtain ⟨rfl, rfl⟩ := hid
        exact (hopens id' (by rw [hr]; exact ho)).1

theorem runService (ts : List ServiceStep)
    (hn : h.plant.ledger.database.highestId + opened (h.runService ts).1 ≤ 2 ^ 31 - 1) :
    (h.runService ts).2.Counts ∧
      (h.runService ts).2.plant.ledger.database.highestId =
        h.plant.ledger.database.highestId + opened (h.runService ts).1 ∧
      ∀ (i : Nat) id, (openedIds (h.runService ts).1)[i]? = some id →
        id.toInt = h.plant.ledger.database.highestId + (i + 1) := by
  induction ts generalizing h with
  | nil =>
    exact ⟨hs, (Int.add_zero _).symm, fun i id hid => by simp [Hub.runService, openedIds] at hid⟩
  | cons t rest ih =>
    simp only [Hub.runService, opened_append, openedIds_append] at hn ⊢
    obtain ⟨hmid, hhigh, hfirst⟩ := hs.serviceStep t (by omega)
    obtain ⟨hlast, hhigh', hlater⟩ := ih hmid (by omega)
    refine ⟨hlast, by omega, fun i id hid => ?_⟩
    rw [List.getElem?_append, length_openedIds] at hid
    split at hid
    · exact hfirst i id hid
    · have hgap := hlater _ id hid
      omega

end Counts

end Hub

/-- The transactions that a hub opens, over all of its restarts, are numbered without a gap from the
highest id on record. Each of them is added under its id, where nothing was on record; whatever else
the hub does takes no id. Every load on the way succeeds. -/
theorem openedIds_runService {db : Database} (hk : db.Keyed)
    (hpos : ∀ id t, db.transactions.get? id = some t → 0 ≤ id) :
    ∃ l, Ledger.load { database := db } = .ok l ∧ ∀ h : Hub, h.plant.ledger = l →
      ∀ ts, db.highestId + opened (h.runService ts).1 ≤ 2 ^ 31 - 1 →
        (openedIds (h.runService ts).1).length = opened (h.runService ts).1 ∧
        (∀ (i : Nat) id, (openedIds (h.runService ts).1)[i]? = some id →
          id.toInt = db.highestId + (i + 1)) ∧
        (openedIds (h.runService ts).1).Pairwise (· < ·) ∧
        (∀ id ∈ openedIds (h.runService ts).1, db.transactions.get? id = none) ∧
        ∀ before after, ts = before ++ after →
          (∃ h', (h.runService before).2.reload = .ok h') ∧
          ∀ now w rest, after = .handler now w :: rest →
            let response? := ((h.runService before).2.handlerStep now w).1
            let ledger := (h.runService before).2.plant.ledger
            let ledger' := ((h.runService before).2.handlerStep now w).2.plant.ledger
            (response?.bind Response.openedId? = none → ledger.KeepsIds ledger') ∧
            ∀ id, response?.bind Response.openedId? = some id → ledger.Opens ledger' id := by
  obtain ⟨l, hl, hstorage, hloads⟩ := Ledger.load_ok hk
  refine ⟨l, hl, ?_⟩
  rintro h rfl ts hn
  have hdb : h.plant.ledger.database = db := congrArg Storage.database hstorage
  subst hdb
  have hs : h.Counts := ⟨by rw [hstorage], ⟨hloads.keyed hk, hk⟩, hloads.counts hk hpos⟩
  obtain ⟨-, -, hids⟩ := hs.runService ts hn
  have hlt {i j : Nat} {id id' : Int32} (hi : (openedIds (h.runService ts).1)[i]? = some id)
      (hj : (openedIds (h.runService ts).1)[j]? = some id') (hij : i < j) : id < id' := by
    have h₁ := hids i id hi
    have h₂ := hids j id' hj
    exact Int32.lt_iff_toInt_lt.2 (by omega)
  refine ⟨length_openedIds _, hids, ?_, fun id hid => ?_, ?_⟩
  · exact List.pairwise_iff_getElem.2 fun i j hi hj hij =>
      hlt (List.getElem?_eq_getElem hi) (List.getElem?_eq_getElem hj) hij
  · obtain ⟨i, hi⟩ := List.mem_iff_getElem?.1 hid
    have hnum := hids i id hi
    cases ht : h.plant.ledger.database.transactions.get? id with
    | none => rfl
    | some t =>
      have hle := Database.le_highestId hk ht
      omega
  · rintro before after rfl
    rw [Hub.runService_append, opened_append] at hn
    obtain ⟨hmid, hhigh, -⟩ := hs.runService before (by omega)
    obtain ⟨_, -, hreload⟩ := Hub.reload_ok hmid.whole hmid.keyed.2
    refine ⟨⟨_, hreload⟩, ?_⟩
    rintro now w rest rfl
    simp only [Hub.runService, Hub.serviceStep, opened_append] at hn
    obtain ⟨-, -, hkeeps, hopens⟩ := hmid.handlerStep now w (by omega)
    exact ⟨hkeeps, fun id hid => (hopens id hid).2⟩

theorem openedIds_runService_depot :
    Database.depot.highestId + opened (Hub.depot.runService ServiceStep.depot).1 ≤ 2 ^ 31 - 1 ∧
      ∀ (i : Nat) id, (openedIds (Hub.depot.runService ServiceStep.depot).1)[i]? = some id →
        id.toInt = Database.depot.highestId + (i + 1) := by
  obtain ⟨l, hl, hrun⟩ := openedIds_runService Database.keyed_depot Database.consistent_depot.nonneg
  obtain rfl : Ledger.depot = l := Except.ok.inj (Ledger.load_depot.symm.trans hl)
  have hn : Database.depot.highestId + opened (Hub.depot.runService ServiceStep.depot).1 = 8 := by
    decide +kernel
  exact ⟨by rw [hn]; decide, (hrun .depot rfl ServiceStep.depot (by rw [hn]; decide)).2.1⟩

end CentralSystem
