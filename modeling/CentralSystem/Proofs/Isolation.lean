import CentralSystem.Proofs.Ledger.Ownership
import CentralSystem.Proofs.Mirror
import CentralSystem.Proofs.Requests

namespace CentralSystem

def Request.stops (id : Int32) : Request → Bool
  | .stopTransaction q => q.transactionId == id
  | _ => false

/-- What a transaction is after a request that may stop it. -/
def Transaction.stoppedBy (t : Transaction) : Request → Transaction
  | .stopTransaction q =>
    if q.transactionId == t.id && !t.isFinished then Ledger.closed t q else t
  | _ => t

def Connector.stoppedBy (c : Connector) (r : Request) : Connector :=
  if c.isActive && r.stops c.transaction then { c with transaction := noTransaction } else c

/-- What is left of a connector when another charge point makes a request. Its transaction can be
stopped, and its limit can change if both share a site. -/
def Connector.Spared (db : Database) (station other : String) (r : Request) (c c' : Connector) :
    Prop :=
  ∃ limit, c' = { c.stoppedBy r with limit } ∧ (limit = c.limit ∨ db.SharesSite station other)

namespace Ledger

/-- The books of a charge point are the same, but for what a request of another can do to them. -/
structure Spares (l l' : Ledger) (station : String) (r : Request) (other : String) : Prop where
  chargePoint : l'.registry.chargePoint? other = l.registry.chargePoint? other
  record : l'.database.chargePoints.get? other = l.database.chargePoints.get? other
  samples : l'.database.samples.get? other = l.database.samples.get? other
  connector : ∀ i, Option.Rel (Connector.Spared l.database station other r)
    (l.registry.connector? other i) (l'.registry.connector? other i)
  stored : ∀ i, Option.Rel (Connector.Spared l.database station other r)
    (l.database.connector? other i) (l'.database.connector? other i)
  running : ∀ id t, t.chargePoint = other → (l'.registry.transactions.get? id = some t ↔
    l.registry.transactions.get? id = some t ∧ r.stops id = false)
  filed : ∀ id t, t.chargePoint = other → (l'.database.transactions.get? id = some t ↔
    ∃ t₀, l.database.transactions.get? id = some t₀ ∧ t₀.chargePoint = other ∧ t₀.stoppedBy r = t)

end Ledger

theorem Transaction.stoppedBy_of_not_stops {t : Transaction} {r : Request}
    (h : r.stops t.id = false ∨ t.isFinished = true) : t.stoppedBy r = t := by
  cases r with
  | stopTransaction q =>
    refine if_neg fun hs => ?_
    rw [Bool.and_eq_true] at hs
    rcases h with h | h
    · exact Bool.noConfusion (h.symm.trans hs.1)
    · simp [h] at hs
  | _ => rfl

theorem Transaction.chargePoint_stoppedBy (t : Transaction) (r : Request) :
    (t.stoppedBy r).chargePoint = t.chargePoint := by
  cases r with
  | stopTransaction q =>
    rw [stoppedBy]
    split
    · next h => exact (Ledger.closed_eq (by simp_all) q).2.1
    · rfl
  | _ => rfl

theorem Connector.limit_stoppedBy (c : Connector) (r : Request) :
    (c.stoppedBy r).limit = c.limit := by
  unfold stoppedBy
  split <;> rfl

theorem Request.eq_stop_of_stops {r : Request} {id : Int32} (h : r.stops id = true) :
    ∃ q, r = .stopTransaction q ∧ q.transactionId = id := by
  cases r with
  | stopTransaction q => exact ⟨q, rfl, by simpa [stops] using h⟩
  | _ => cases h

def Ledger.StopsOf (l : Ledger) (r : Request) (other : String) : Prop :=
  ∃ q t, r = .stopTransaction q ∧ l.record? q.transactionId = some t ∧ t.chargePoint = other

section Answer

variable {l : Ledger} (hb : l.registry.Backed l.database) {station other : String} {r : Request}
include hb

theorem Connector.stoppedBy_eq_self {i : UInt32} {c : Connector}
    (hc : l.registry.connector? other i = some c)
    (h : ∀ q t, r = .stopTransaction q → l.record? q.transactionId = some t →
      t.isFinished = false → t.chargePoint = other → t.connector = i → c.transaction ≠ t.id) :
    c.stoppedBy r = c := by
  refine if_neg fun hs => ?_
  obtain ⟨ha, hs⟩ := Bool.and_eq_true_iff.1 hs
  obtain ⟨q, rfl, hid⟩ := Request.eq_stop_of_stops hs
  obtain ⟨t, ht, ho, hst, hi⟩ := hb.record_of_isActive hc ha
  refine h q t rfl ?_ ho hst hi (hb.keyed.transaction _ _ ht).symm
  rw [Ledger.record?_of_backed hb, hid]
  exact ht

end Answer

namespace Ledger

open Entry

section Outcome

variable {settings : Settings} {now later : Timestamp} {l : Ledger}
  (hb : l.registry.Backed l.database) {station other : String} {r : Request}

theorem not_mem_places_limit {p : Place} (hc : p.holdsConnectors = false) (s : String)
    (c : Connector) (amps : Int32) : p ∉ (Entry.limit s c amps).places := by
  intro hp
  simp only [places, List.mem_cons, List.not_mem_nil, or_false] at hp
  rcases hp with rfl | rfl <;> cases hc

omit hb in
theorem owner?_of_transaction? (hb : l.registry.Backed l.database) {p : Place} {t : Transaction}
    (h : p.transaction? (l.content p) = some t) : p.owner? l.database = some t.chargePoint := by
  cases p with
  | running id => exact Option.map_eq_some_iff.2 ⟨t, (hb.transaction id t h).1, rfl⟩
  | filed id => exact Option.map_eq_some_iff.2 ⟨t, h, rfl⟩
  | _ => cases h

section Apart

variable (hne : other ≠ station) (hno : ¬ l.StopsOf r other)
  (hlt : (l.effect settings now later station r).response.opened = 1 →
    l.database.highestId < 2 ^ 31 - 1)
include hb hne hno hlt

theorem content_effect_of_owner {p : Place} (hp : p.owner? l.database = some other)
    (hc : p.holdsConnectors = false) :
    (l.postAll (l.effect settings now later station r).entries).content p = l.content p := by
  refine content_postAll_of_not_mem (fun e he => ?_) l
  rcases mem_entries_cases he with he | ⟨s, c, amps, rfl⟩
  · exact (Glance.concerns_outcome hb r he).not_mem_places hne
      (fun q t hr ht hs => hno ⟨q, t, hr, ht, hs⟩) hb hlt hp
  · exact not_mem_places_limit hc s c amps

omit hlt in
theorem chargePoint_ne_of_mem_entries {e : Entry}
    (he : e ∈ (l.effect settings now later station r).entries) :
    ∀ t ∈ e.transaction?, t.chargePoint ≠ other := by
  rcases mem_entries_cases he with he | ⟨s, c, amps, rfl⟩
  · exact (Glance.concerns_outcome hb r he).chargePoint_ne hne
      fun q t hr ht hs => hno ⟨q, t, hr, ht, hs⟩
  · intro t ht
    cases ht

omit hne hlt in
theorem not_stops_of_owner {id : Int32} {t : Transaction}
    (ht : l.database.transactions.get? id = some t) (hs : t.chargePoint = other) :
    r.stops t.id = false := by
  rw [Bool.eq_false_iff]
  intro hstops
  obtain ⟨q, rfl, hid⟩ := Request.eq_stop_of_stops hstops
  refine hno ⟨q, t, rfl, ?_, hs⟩
  rw [record?_of_backed hb, hid, hb.keyed.transaction id t ht]
  exact ht

theorem transaction_effect {p : Place} {t : Transaction} (hs : t.chargePoint = other) :
    p.transaction? ((l.postAll (l.effect settings now later station r).entries).content p) =
        some t ↔
      p.transaction? (l.content p) = some t := by
  have hsame (t' : Transaction) (ht' : p.transaction? (l.content p) = some t')
      (hs' : t'.chargePoint = other) :
      (l.postAll (l.effect settings now later station r).entries).content p = l.content p := by
    have howner := owner?_of_transaction? hb ht'
    rw [hs'] at howner
    cases p with
    | running | filed => exact content_effect_of_owner hb hne hno hlt howner rfl
    | _ => cases ht'
  constructor
  · intro ht
    by_contra hold
    have hbefore : ∀ t' ∈ p.transaction? (l.content p), t'.chargePoint ≠ other :=
      fun t' ht' hs' => hold (hsame t' ht' hs' ▸ ht)
    rw [content_postAll] at ht
    exact changeAll_induction (P := fun x => ∀ t' ∈ p.transaction? x, t'.chargePoint ≠ other)
      (fun e he _ hx => change_transaction (chargePoint_ne_of_mem_entries hb hne hno he) hx)
      hbefore t ht hs
  · intro ht
    rw [hsame t ht hs]
    exact ht

end Apart

theorem content_effect {p : Place} (hc : p.holdsConnectors = false) :
    (l.postAll (l.effect settings now later station r).entries).content p =
      (l.postAll ((l.glance settings station r).outcome settings now station r).2).content p := by
  show (l.postAll (_ ++ _)).content p = _
  rw [postAll_append]
  refine content_postAll_of_not_mem (fun e he => ?_) _
  obtain ⟨_, -, a, -, rfl⟩ := mem_limits he
  exact not_mem_places_limit hc a.1.1 a.1.2 a.2

end Outcome

section Stop

variable {settings : Settings} {l : Ledger} {station : String} {q : Request.StopTransaction}
  {t : Transaction} (hr : l.record? q.transactionId = some t)
include hr

variable (hb : l.registry.Backed l.database)
include hb

theorem connector?_postAll_stop (i : UInt32) :
    (l.postAll ((l.glance settings station (.stopTransaction q)).stop q)).registry.connector?
        t.chargePoint i =
      (l.registry.connector? t.chargePoint i).map (·.stoppedBy (.stopTransaction q)) := by
  have hid : t.id = q.transactionId := id_of_record? (keyed_of_backed hb) _ _ hr
  have hkept {j : UInt32} {c : Connector} (hc : l.registry.connector? t.chargePoint j = some c)
      (hno : t.isFinished = false → t.connector = j → c.transaction ≠ t.id) :
      c.stoppedBy (.stopTransaction q) = c := by
    refine Connector.stoppedBy_eq_self hb hc fun q' t' hq ht' ho _ hi => ?_
    obtain rfl := Request.stopTransaction.inj hq
    obtain rfl := Option.some.inj (hr.symm.trans ht')
    exact hno ho hi
  have hall (hno : ∀ c, l.registry.connector? t.chargePoint t.connector = some c →
      t.isFinished = false → c.transaction ≠ t.id) : l.registry.connector? t.chargePoint i =
        (l.registry.connector? t.chargePoint i).map (·.stoppedBy (.stopTransaction q)) := by
    cases hc : l.registry.connector? t.chargePoint i with
    | none => rfl
    | some c => exact congrArg some (hkept hc fun ho hi => hno c (hi ▸ hc) ho).symm
  rw [postAll_stop station hr]
  split
  · next hf => exact hall fun _ _ ho => absurd hf (by simp [ho])
  · next hf =>
    show (l.unlink t).registry.connector? t.chargePoint i = _
    rw [unlink]
    cases hc : l.registry.connector? t.chargePoint t.connector with
    | none => exact hall fun c hc' => absurd (hc.symm.trans hc') (by simp)
    | some c =>
      by_cases htx : c.transaction = t.id
      · have hci : c.id = t.connector := hb.id_of_connector hc
        have hpos := hb.nonneg _ _ ((record?_of_backed hb _).symm.trans hr)
        have ha : c.isActive = true :=
          decide_eq_true (Int32.le_iff_toInt_le.2 (htx ▸ hid ▸ hpos))
        have hstopped : c.stoppedBy (.stopTransaction q) =
            { c with transaction := noTransaction } :=
          if_pos (by simp [ha, Request.stops, htx, hid])
        simp only [htx, ↓reduceIte, registry_putConnector]
        rw [Registry.connector?_setConnector (Registry.knows_of_connector? hc)]
        split
        · next hi =>
          rw [hi.2.trans hci, hc, Option.map_some, hstopped]
        · next hi =>
          cases hc' : l.registry.connector? t.chargePoint i with
          | none => rfl
          | some c' =>
            have hne : t.connector ≠ i := fun he => hi ⟨rfl, he.symm.trans hci.symm⟩
            exact congrArg some (hkept hc' fun _ he => absurd he hne).symm
      · simp only [htx, ↓reduceIte]
        exact hall fun c' hc' _ => Option.some.inj (hc.symm.trans hc') ▸ htx

omit hb in
theorem running_postAll_stop (id : Int32) :
    (l.postAll ((l.glance settings station (.stopTransaction q)).stop q)).registry.transactions.get?
        id =
      if id = t.id then none else l.registry.transactions.get? id := by
  rw [postAll_stop station hr]
  split
  · exact Table.get?_erase ..
  · next hf =>
    have hid : (closed t q).id = t.id := (closed_eq (by simpa using hf) q).1
    have hsame : (l.unlink t).registry.transactions = l.registry.transactions := by
      unfold unlink
      split
      · split <;> rfl
      · rfl
    rw [registry_settle, Registry.removeTransaction, Table.get?_erase, hid, hsame]

theorem filed_postAll_stop (id : Int32) :
    (l.postAll ((l.glance settings station (.stopTransaction q)).stop q)).database.transactions.get?
        id =
      (l.database.transactions.get? id).map (·.stoppedBy (.stopTransaction q)) := by
  have hid : t.id = q.transactionId := id_of_record? (keyed_of_backed hb) _ _ hr
  have hdb : l.database.transactions.get? q.transactionId = some t :=
    (record?_of_backed hb _).symm.trans hr
  have hkept {t' : Transaction} (ht' : l.database.transactions.get? id = some t')
      (hno : id = q.transactionId → t.isFinished = true) :
      t'.stoppedBy (.stopTransaction q) = t' := by
    apply Transaction.stoppedBy_of_not_stops
    rw [hb.keyed.transaction id t' ht']
    by_cases hq : id = q.transactionId
    · rw [hq, hdb] at ht'
      exact .inr (Option.some.inj ht' ▸ hno hq)
    · exact .inl (beq_false_of_ne (Ne.symm hq))
  rw [postAll_stop station hr]
  split
  · next hf =>
    show l.database.transactions.get? id = _
    cases ht' : l.database.transactions.get? id with
    | none => rfl
    | some t' => exact congrArg some (hkept ht' fun _ => hf).symm
  · next hf =>
    have hclosed : (closed t q).id = q.transactionId :=
      (closed_eq (by simpa using hf) q).1.trans hid
    have hsame : (l.unlink t).database.transactions = l.database.transactions := by
      unfold unlink
      split
      · split <;> rfl
      · rfl
    show ((l.unlink t).database.updateTransaction (closed t q)).transactions.get? id = _
    rw [Database.updateTransaction_eq, Table.get?_replace, hclosed, hsame]
    split
    · next hq =>
      rw [hq, hdb, Option.map_some, Option.map_some, Transaction.stoppedBy, if_pos]
      simpa [hid] using hf
    · next hq =>
      cases ht' : l.database.transactions.get? id with
      | none => rfl
      | some t' => exact congrArg some (hkept ht' fun he => absurd he hq).symm

end Stop

theorem not_mem_places_stop {p : Place} (hc : p.holdsConnectors = false)
    (ht : p.holdsTransaction = false) {g : Glance} {q : Request.StopTransaction} {e : Entry}
    (he : e ∈ g.stop q) : p ∉ e.places := by
  intro hp
  unfold Glance.stop at he
  split at he
  · cases he
  · split at he
    · obtain rfl := List.mem_singleton.1 he
      obtain rfl := List.mem_singleton.1 hp
      cases ht
    · rcases List.mem_append.1 he with he | he
      · obtain ⟨c, -, rfl⟩ := List.mem_map.1 he
        simp only [places, List.mem_cons, List.not_mem_nil, or_false] at hp
        rcases hp with rfl | rfl <;> cases hc
      · obtain rfl := List.mem_singleton.1 he
        simp only [places, List.mem_cons, List.not_mem_nil, or_false] at hp
        rcases hp with rfl | rfl <;> cases ht

section Effect

variable {settings : Settings} {now later : Timestamp} {l : Ledger}
  (hb : l.registry.Backed l.database) {station other : String} (hne : other ≠ station) {r : Request}
  (hlt : (l.effect settings now later station r).response.opened = 1 →
    l.database.highestId < 2 ^ 31 - 1)
include hb hne hlt

theorem connector?_outcome (i : UInt32) :
    (l.postAll ((l.glance settings station r).outcome settings now station
        r).2).registry.connector? other i =
      (l.registry.connector? other i).map (·.stoppedBy r) := by
  by_cases hof : l.StopsOf r other
  · obtain ⟨q, t, rfl, hr, rfl⟩ := hof
    exact connector?_postAll_stop hr hb i
  · have hrack : (l.postAll ((l.glance settings station r).outcome settings now station
        r).2).content (.rack other) = l.content (.rack other) :=
      content_postAll_of_not_mem (fun e he => (Glance.concerns_outcome hb r he).not_mem_places hne
        (fun q t hr ht hs => hof ⟨q, t, hr, ht, hs⟩) hb hlt rfl) l
    have hsame : (l.postAll ((l.glance settings station r).outcome settings now station
        r).2).registry.connector? other i = l.registry.connector? other i := by
      rw [connector?_eq_rack, connector?_eq_rack]
      exact congrArg (Option.bind · (·.get? i)) hrack
    rw [hsame]
    cases hc : l.registry.connector? other i with
    | none => rfl
    | some c =>
      refine congrArg some (Connector.stoppedBy_eq_self hb hc fun q t hr ht _ hs => ?_).symm
      exact absurd ⟨q, t, hr, ht, hs⟩ hof

theorem content_effect_of_unstopped {p : Place} (hp : p.owner? l.database = some other)
    (hc : p.holdsConnectors = false) (ht : p.holdsTransaction = false) :
    (l.postAll (l.effect settings now later station r).entries).content p = l.content p := by
  by_cases hof : l.StopsOf r other
  · obtain ⟨q, t, rfl, hr, rfl⟩ := hof
    rw [content_effect hc]
    refine content_postAll_of_not_mem (fun e he => ?_) l
    exact not_mem_places_stop hc ht he
  · exact content_effect_of_owner hb hne hof hlt hp hc

theorem running_effect (id : Int32) (t : Transaction) (hs : t.chargePoint = other) :
    (l.postAll (l.effect settings now later station r).entries).registry.transactions.get? id =
        some t ↔
      l.registry.transactions.get? id = some t ∧ r.stops id = false := by
  by_cases hof : l.StopsOf r other
  · obtain ⟨q, t', rfl, hr, rfl⟩ := hof
    have hid : t'.id = q.transactionId := id_of_record? (keyed_of_backed hb) _ _ hr
    have hrunning : (l.postAll (l.effect settings now later station
        (.stopTransaction q)).entries).content (.running id) = _ :=
      (content_effect (p := .running id) rfl).trans (running_postAll_stop hr id)
    rw [show (l.postAll _).registry.transactions.get? id = _ from hrunning, hid, Request.stops]
    by_cases hq : id = q.transactionId
    · simp [hq]
    · simp [hq, Ne.symm hq]
  · refine (transaction_effect hb hne hof hlt (p := .running id) hs).trans
      (and_iff_left_of_imp fun ht => ?_).symm
    exact hb.id_of_transaction ht ▸ not_stops_of_owner hb hof (hb.transaction id t ht).1 hs

theorem filed_effect (id : Int32) (t : Transaction) (hs : t.chargePoint = other) :
    (l.postAll (l.effect settings now later station r).entries).database.transactions.get? id =
        some t ↔
      ∃ t₀, l.database.transactions.get? id = some t₀ ∧ t₀.chargePoint = other ∧
        t₀.stoppedBy r = t := by
  by_cases hof : l.StopsOf r other
  · obtain ⟨q, t', rfl, hr, rfl⟩ := hof
    have hfiled : (l.postAll (l.effect settings now later station
        (.stopTransaction q)).entries).content (.filed id) = _ :=
      (content_effect (p := .filed id) rfl).trans (filed_postAll_stop hr hb id)
    rw [show (l.postAll _).database.transactions.get? id = _ from hfiled, Option.map_eq_some_iff]
    refine exists_congr fun t₀ => and_congr_right fun _ => (and_iff_right_of_imp ?_).symm
    rintro rfl
    rw [← hs, Transaction.chargePoint_stoppedBy]
  · refine (transaction_effect hb hne hof hlt (p := .filed id) hs).trans ⟨fun ht => ?_, ?_⟩
    · have hstops := not_stops_of_owner hb hof ht hs
      exact ⟨t, ht, hs, Transaction.stoppedBy_of_not_stops (.inl hstops)⟩
    · rintro ⟨t₀, ht, hs₀, rfl⟩
      rwa [Transaction.stoppedBy_of_not_stops (.inl (not_stops_of_owner hb hof ht hs₀))]

end Effect

end Ledger

namespace Hub

variable {h : Hub}

theorem connector?_followUp (station other : String) (r : Request)
    (hw : h.plant.ledger.storage.broken = []) (hk : h.plant.ledger.Keyed) (now : Timestamp)
    (i : UInt32) :
    ∃ limit, (h.followUp now station r).plant.ledger.registry.connector? other i =
        (h.plant.ledger.registry.connector? other i).map (fun c => { c with limit }) ∧
      (limit = h.plant.ledger.registry.limitAt other i ∨
        h.plant.ledger.database.SharesSite station other) := by
  have hkept {registry : Registry} (hr : registry = h.plant.ledger.registry) :
      ∃ limit, registry.connector? other i =
          (h.plant.ledger.registry.connector? other i).map (fun c => { c with limit }) ∧
        (limit = h.plant.ledger.registry.limitAt other i ∨
          h.plant.ledger.database.SharesSite station other) := by
    refine ⟨h.plant.ledger.registry.limitAt other i, ?_, .inl rfl⟩
    rw [hr]
    cases hc : h.plant.ledger.registry.connector? other i with
    | none => rfl
    | some c => rw [Registry.limitAt_of_connector? hc, Option.map_some]
  cases ht : h.settings.tiers with
  | none =>
    rw [followUp_of_tiers_eq_none now ht]
    exact hkept rfl
  | some tiers =>
    have hquiet := quiet_followUp hw ht now station r
    cases hshares : r.sharesPower with
    | false =>
      simp only [hshares, Bool.false_eq_true, ↓reduceIte] at hquiet
      exact hkept (congrArg (·.registry) hquiet)
    | true =>
      simp only [hshares, ↓reduceIte] at hquiet
      rw [Ledger.registry_of_quiet hquiet, Ledger.registry_quiet]
      cases hl : h.plant.ledger.database.locationOf? station with
      | none => exact hkept (congrArg Ledger.registry (Plant.shared_of_none hl))
      | some location =>
        rw [Plant.shared_of_some hl]
        refine ⟨_, Ledger.connector?_assign_plan hw hk tiers location station other i, ?_⟩
        by_cases hbelongs : h.plant.ledger.database.Belongs other location.id
        · exact .inr ⟨location, hl, hbelongs⟩
        · exact .inl (Ledger.limitAfter_elsewhere hk hl hbelongs i)

section Process

variable {station other : String} {r : Request} (hw : h.plant.ledger.storage.broken = [])
  (hb : h.plant.ledger.registry.Backed h.plant.ledger.database) {now later : Timestamp}
  (hn : h.plant.ledger.database.highestId + (h.process now later station r).1.opened ≤ 2 ^ 31 - 1)
include hw hb hn

theorem connector?_process (hne : other ≠ station) (i : UInt32) :
    Option.Rel (Connector.Spared h.plant.ledger.database station other r)
      (h.plant.ledger.registry.connector? other i)
      ((h.process now later station r).2.plant.ledger.registry.connector? other i) := by
  have hk := Ledger.keyed_of_backed hb
  have hanswer : Ledger.ComesTo h.plant.ledger
      (h.plant.ledger.answer h.settings now station r) _ := Ledger.answer_eq now station hw hk r
  have hchanges : Changes h.settings false _ _ (h.handle now station r).2.plant.ledger.quiet :=
    Ledger.changes_answer now station hw hk r
  have hsites := (hchanges.tracks hk hb.chargePoint).2
  have hmid : (h.handle now station r).2.plant.ledger.registry = _ :=
    (congrArg Ledger.registry hanswer.2 :)
  obtain ⟨limit, hlimit, hsame⟩ :=
    connector?_followUp station other r (h := (h.handle now station r).2)
      (hchanges.broken.trans hw) (hchanges.preserve (P := Ledger.Keyed) Change.keyed hk) later i
  have hstopped : (h.handle now station r).2.plant.ledger.registry.connector? other i = _ :=
    (congrArg (·.connector? other i) hmid).trans
      (Ledger.connector?_outcome hb hne (highestId_lt_of_opened hw hk hn) i)
  rw [Registry.limitAt, hstopped] at hsame
  show Option.Rel _ _ (((h.handle now station r).2.followUp later station
    r).plant.ledger.registry.connector? other i)
  rw [hlimit, hstopped]
  cases hc : h.plant.ledger.registry.connector? other i with
  | none => exact .none
  | some c =>
    rw [hc] at hsame
    exact .some ⟨limit, rfl, hsame.imp (fun he => he.trans (c.limit_stoppedBy r))
      (hsites.sharesSite_iff station other).1⟩

theorem spares_process (hne : other ≠ station) :
    h.plant.ledger.Spares (h.process now later station r).2.plant.ledger station r other := by
  have hk := Ledger.keyed_of_backed hb
  obtain ⟨-, hbooks, -⟩ := process_eq hw hk now later station r
  have hlt := highestId_lt_of_opened hw hk hn
  have hregistry : (h.process now later station r).2.plant.ledger.registry = _ :=
    (congrArg Ledger.registry hbooks :)
  have hdatabase : (h.process now later station r).2.plant.ledger.database = _ :=
    (congrArg Ledger.database hbooks :)
  have hcontent {p : Place} (hp : p.owner? h.plant.ledger.database = some other) :=
    Ledger.content_effect_of_unstopped hb hne hlt hp
  have hafter : (h.process now later station r).2.plant.ledger.registry.Backed
      (h.process now later station r).2.plant.ledger.database :=
    ((changes_process hw hb now later station r).backed hb hn).1
  refine ⟨?_, ?_, ?_, connector?_process hw hb hn hne, ?_, ?_, ?_⟩
  · rw [hregistry]
    exact hcontent (p := .seat other) rfl rfl rfl
  · rw [hdatabase]
    exact hcontent (p := .record other) rfl rfl rfl
  · rw [hdatabase]
    exact hcontent (p := .samples other) rfl rfl rfl
  · intro i
    rw [← hb.connector, ← hafter.connector]
    exact connector?_process hw hb hn hne i
  · rw [hregistry]
    exact Ledger.running_effect hb hne hlt
  · rw [hdatabase]
    exact Ledger.filed_effect hb hne hlt

omit hn in
theorem tags_locations_process :
    (∀ idTag tag, h.plant.ledger.database.tags.get? idTag = some tag →
      (h.process now later station r).2.plant.ledger.database.tags.get? idTag = some tag) ∧
    (h.process now later station r).2.plant.ledger.database.locations =
      h.plant.ledger.database.locations := by
  have hk := Ledger.keyed_of_backed hb
  refine ⟨fun idTag tag ht => ?_, ?_⟩
  · obtain ⟨-, hbooks, -⟩ := process_eq hw hk now later station r
    have hdatabase : (h.process now later station r).2.plant.ledger.database = _ :=
      (congrArg Ledger.database hbooks :)
    rw [hdatabase]
    refine (Ledger.content_postAll _ _ (.tag idTag)).trans ?_
    exact Entry.changeAll_induction (p := .tag idTag) (P := fun x => x = some tag)
      (fun e _ _ hx => e.change_tag_of_some hx) ht
  · exact ((changes_process hw hb now later station r).tracks hk hb.chargePoint).2.locations

end Process

end Hub

/-- On a run from a load, a request and its follow-up leave the books of every other charge point as
they are, but for limits at a shared site and for the transaction that it stops, if that is open;
and they change no tag that is on record and no location. -/
theorem isolation_runHandlers {db : Database} (hc : db.Consistent) :
    ∃ l, Ledger.load { database := db } = .ok l ∧ ∀ h : Hub, h.plant.ledger = l →
      ∀ ws now later station r,
        db.highestId + opened (h.runHandlers ws).1 +
            ((h.runHandlers ws).2.process now later station r).1.opened ≤ 2 ^ 31 - 1 →
          let before := (h.runHandlers ws).2.plant.ledger
          let after := ((h.runHandlers ws).2.process now later station r).2.plant.ledger
          (∀ other, other ≠ station → before.Spares after station r other) ∧
          (∀ idTag tag, before.database.tags.get? idTag = some tag →
            after.database.tags.get? idTag = some tag) ∧
          after.database.locations = before.database.locations := by
  obtain ⟨l, hl, hrun⟩ := backed_runHandlers hc
  refine ⟨l, hl, fun h hh ws now later station r hn => ?_⟩
  obtain ⟨hb, hhigh, hw⟩ := hrun h hh ws (by omega)
  rw [← hhigh] at hn
  exact ⟨fun other hne => Hub.spares_process hw hb hn hne, Hub.tags_locations_process hw hb⟩

def HandlerStep.morning : List (Timestamp × HandlerStep) := (HandlerStep.depot .epoch).take 3

def Request.stopNorth : Request :=
  .stopTransaction
    { idTag := none, meterStop := 9, timestamp := .epoch, transactionId := 7, reason := none,
      transactionData := none }

def Hub.morningDepot : Hub := (Hub.depot.runHandlers HandlerStep.morning).2

theorem isolation_runHandlers_depot :
    Database.depot.highestId + opened (Hub.depot.runHandlers HandlerStep.morning).1 +
        (Hub.morningDepot.process .epoch .epoch "south" .stopNorth).1.opened = 8 ∧
      "north" ≠ "south" ∧
      Hub.morningDepot.plant.ledger.Spares
        (Hub.morningDepot.process .epoch .epoch "south" .stopNorth).2.plant.ledger
        "south" .stopNorth "north" := by
  obtain ⟨l, hl, hrun⟩ := isolation_runHandlers Database.consistent_depot
  obtain rfl : Ledger.depot = l := Except.ok.inj (Ledger.load_depot.symm.trans hl)
  have hn : Database.depot.highestId + opened (Hub.depot.runHandlers HandlerStep.morning).1 +
      (Hub.morningDepot.process .epoch .epoch "south" .stopNorth).1.opened = 8 := by
    decide +kernel
  have hne : "north" ≠ "south" := by decide
  obtain ⟨hspares, -⟩ := hrun .depot rfl HandlerStep.morning .epoch .epoch "south" .stopNorth
    (Int.le_trans (Int.le_of_eq hn) (by decide))
  exact ⟨hn, hne, hspares "north" hne⟩

end CentralSystem
