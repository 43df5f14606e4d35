import CentralSystem.Proofs.Ledger.Alike

namespace CentralSystem

namespace Table

variable {κ α : Type} [Ord κ] [DecidableEq κ] [Std.TransOrd κ] [Std.LawfulEqOrd κ] (t : Table κ α)
  (k : κ) (a : α)

def provide : Table κ α := if t.contains k then t else t.insert k a

theorem get?_provide (k' : κ) :
    (t.provide k a).get? k' = if k' = k then (t.get? k').or (some a) else t.get? k' := by
  unfold provide
  by_cases h : k' = k
  · subst h
    cases ht : t.get? k' <;> simp [contains, ht]
  · split <;> simp [get?_insert, h]

theorem get?_replace (k' : κ) : (t.modify k fun _ => a).get? k' =
    if k' = k then (t.get? k').map fun _ => a else t.get? k' := by
  rw [get?_modify]
  split
  · next h => rw [h]
  · rfl

theorem get?_insert_of_get? (f : Option α → α) (k' : κ) : (t.insert k (f (t.get? k))).get? k' =
    if k' = k then some (f (t.get? k')) else t.get? k' := by
  rw [get?_insert]
  split
  · next h => rw [h]
  · rfl

theorem modify_eq_ite : t.modify k (fun _ => a) = if t.contains k then t.insert k a else t := by
  unfold modify contains
  cases t.get? k <;> rfl

end Table

theorem Registry.register_eq (r : Registry) (cp : ChargePoint) : r.register cp =
    { r with stations := r.stations.provide cp.id { chargePoint := cp } } := by
  unfold register Table.provide knows
  split <;> rfl

namespace Database

variable (db : Database)

theorem addChargePoint_eq (cp : ChargePoint) :
    db.addChargePoint cp = { db with chargePoints := db.chargePoints.provide cp.id cp } := by
  unfold addChargePoint Table.provide
  split <;> rfl

theorem updateChargePoint_eq (cp : ChargePoint) : db.updateChargePoint cp =
    { db with chargePoints := db.chargePoints.modify cp.id fun _ => cp } := by
  rw [Table.modify_eq_ite]
  unfold updateChargePoint
  split <;> rfl

theorem addTransaction_eq_provide (t : Transaction) :
    db.addTransaction t = { db with transactions := db.transactions.provide t.id t } := by
  unfold addTransaction Table.provide
  split <;> rfl

theorem updateTransaction_eq (t : Transaction) : db.updateTransaction t =
    { db with transactions := db.transactions.modify t.id fun _ => t } := by
  rw [Table.modify_eq_ite]
  unfold updateTransaction
  split <;> rfl

def provideTag (idTag : String) : Database :=
  { db with tags := db.tags.provide idTag (.onFirstUse idTag) }

end Database

/-- An elementary change of the books. -/
inductive Entry where
  | enroll (station : String)
  | see (cp : ChargePoint)
  | amend (cp : ChargePoint)
  | sample (s : MeterSample)
  | tag (idTag : String)
  | enter (t : Transaction)
  | put (station : String) (c : Connector)
  | forget (id : Int32)
  | settle (t : Transaction)
  | limit (station : String) (c : Connector) (amps : Int32)
deriving DecidableEq

/-- Where something stands in the books: a charge point and its connectors in the registry, its
record, its connectors and its samples in the database, a transaction here and there, a tag, and the
counter of transaction ids. -/
inductive Place where
  | seat (station : String)
  | rack (station : String)
  | record (station : String)
  | shelf (station : String)
  | samples (station : String)
  | running (id : Int32)
  | filed (id : Int32)
  | tag (idTag : String)
  | counter
deriving DecidableEq

namespace Place

abbrev Content : Place → Type
  | seat _ | record _ => Option ChargePoint
  | rack _ | shelf _ => Option (Table UInt32 Connector)
  | samples _ => Option (List MeterSample)
  | running _ | filed _ => Option Transaction
  | tag _ => Option UserTag
  | counter => Int32

/-- What stands at a place but for when a charge point was last seen. -/
def unseen : (p : Place) → p.Content → p.Content
  | seat _, x | record _, x => Option.map ChargePoint.unseen x
  | _, x => x

end Place

namespace Entry

/-- The places that an entry is about. -/
def places : Entry → List Place
  | enroll s => [.seat s, .rack s, .record s]
  | see cp => [.seat cp.id]
  | amend cp => [.seat cp.id, .record cp.id]
  | sample s => [.samples s.chargePoint]
  | tag idTag => [.tag idTag]
  | enter t => [.running t.id, .filed t.id, .counter]
  | put s _ | limit s _ _ => [.rack s, .shelf s]
  | forget id => [.running id]
  | settle t => [.running t.id, .filed t.id]

def write : Entry → (p : Place) → p.Content → p.Content
  | enroll s, .seat _, x | enroll s, .record _, x => x.or (some { id := s })
  | enroll _, .rack _, x => x.or (some ∅)
  | see cp, .seat _, x | amend cp, .seat _, x | amend cp, .record _, x => x.map fun _ => cp
  | sample s, .samples _, x => some (x.getD [] ++ [s])
  | tag idTag, .tag _, x => x.or (some (.onFirstUse idTag))
  | enter t, .running _, _ => some t
  | enter t, .filed _, x => x.or (some t)
  | enter _, .counter, n => n + 1
  | put _ c, .rack _, x => x.map (·.insert c.id c)
  | put _ c, .shelf _, x => some ((x.getD ∅).insert c.id c)
  | forget _, .running _, _ | settle _, .running _, _ => none
  | settle t, .filed _, x => x.map fun _ => t
  | limit _ c amps, .rack _, x => x.map (·.insert c.id { c with limit := amps })
  | limit _ c amps, .shelf _, x =>
    let d := ((x.getD ∅).get? c.id).getD { id := c.id }
    some ((x.getD ∅).insert d.id { d with limit := amps })
  | _, _, x => x

def change (e : Entry) (p : Place) (x : p.Content) : p.Content :=
  if p ∈ e.places then e.write p x else x

def unseen : Entry → Entry
  | see cp => see cp.unseen
  | amend cp => amend cp.unseen
  | e => e

theorem places_unseen (e : Entry) : e.unseen.places = e.places := by
  cases e <;> rfl

theorem change_eq_ite {e : Entry} {p : Place} {q : Prop} [Decidable q] (h : p ∈ e.places ↔ q)
    (x : p.Content) : e.change p x = if q then e.write p x else x := by
  rw [change]
  exact ite_congr (propext h) (fun _ => rfl) fun _ => rfl

theorem change_of_not_mem {e : Entry} {p : Place} (h : p ∉ e.places) (x : p.Content) :
    e.change p x = x := if_neg h

theorem unseen_change (e : Entry) (p : Place) (x : p.Content) :
    p.unseen (e.change p x) = e.unseen.change p (p.unseen x) := by
  rw [change, change, places_unseen]
  split
  · cases e with
    | enroll s =>
      cases p with
      | seat s' | record s' => cases x <;> rfl
      | _ => rfl
    | see cp =>
      cases p with
      | seat s => cases x <;> rfl
      | _ => rfl
    | amend cp =>
      cases p with
      | seat s | record s => cases x <;> rfl
      | _ => rfl
    | _ => cases p <;> rfl
  · rfl

def changeAll (es : List Entry) (p : Place) (x : p.Content) : p.Content :=
  es.foldl (fun x e => e.change p x) x

theorem changeAll_cons (e : Entry) (es : List Entry) (p : Place) (x : p.Content) :
    changeAll (e :: es) p x = changeAll es p (e.change p x) := rfl

theorem changeAll_induction {es : List Entry} {p : Place} {P : p.Content → Prop}
    (hstep : ∀ e ∈ es, ∀ x, P x → P (e.change p x)) {x : p.Content} (hx : P x) :
    P (changeAll es p x) := by
  induction es generalizing x with
  | nil => exact hx
  | cons e rest ih =>
    exact ih (fun e' he' => hstep e' (List.mem_cons_of_mem _ he'))
      (hstep e List.mem_cons_self x hx)

theorem changeAll_of_not_mem {es : List Entry} {p : Place} (h : ∀ e ∈ es, p ∉ e.places)
    (x : p.Content) : changeAll es p x = x :=
  changeAll_induction (P := (· = x)) (fun e he y hy => (change_of_not_mem (h e he) y).trans hy) rfl

theorem unseen_changeAll (es : List Entry) (p : Place) (x : p.Content) :
    p.unseen (changeAll es p x) = changeAll (es.map unseen) p (p.unseen x) := by
  induction es generalizing x with
  | nil => rfl
  | cons e rest ih =>
    rw [changeAll_cons, ih, unseen_change]
    rfl

/-- Two entries do not get in each other's way: they are about different places, or provide a tag.
-/
def Apart (e e' : Entry) : Prop := ∀ p ∈ e.places, p ∈ e'.places → ∃ idTag, p = .tag idTag

theorem eq_tag_of_mem_places {e : Entry} {t : String} (h : .tag t ∈ e.places) : e = .tag t := by
  cases e <;> simp_all [places]

theorem Apart.change_comm {e e' : Entry} (h : Apart e e') (p : Place) (x : p.Content) :
    e'.change p (e.change p x) = e.change p (e'.change p x) := by
  by_cases hp : p ∈ e.places
  · by_cases hp' : p ∈ e'.places
    · obtain ⟨t, rfl⟩ := h p hp hp'
      rw [eq_tag_of_mem_places hp, eq_tag_of_mem_places hp']
    · rw [change_of_not_mem hp', change_of_not_mem hp']
  · rw [change_of_not_mem hp, change_of_not_mem hp]

theorem change_changeAll_comm {e : Entry} {es : List Entry} (h : ∀ e' ∈ es, Apart e e') (p : Place)
    (x : p.Content) : changeAll es p (e.change p x) = e.change p (changeAll es p x) := by
  induction es generalizing x with
  | nil => rfl
  | cons e' rest ih =>
    rw [changeAll_cons, changeAll_cons, (h e' List.mem_cons_self).change_comm p x]
    exact ih (fun e'' he'' => h e'' (List.mem_cons_of_mem _ he'')) _

theorem changeAll_comm {es es' : List Entry} (h : ∀ e ∈ es, ∀ e' ∈ es', Apart e e') (p : Place)
    (x : p.Content) : changeAll es' p (changeAll es p x) = changeAll es p (changeAll es' p x) := by
  induction es generalizing x with
  | nil => rfl
  | cons e rest ih =>
    rw [changeAll_cons, changeAll_cons, ih fun e' he' => h e' (List.mem_cons_of_mem _ he'),
      change_changeAll_comm (h e List.mem_cons_self)]

end Entry

namespace Ledger

variable {l l' : Ledger}

/-- What stands at a place. -/
def content (l : Ledger) : (p : Place) → p.Content
  | .seat s => l.registry.chargePoint? s
  | .rack s => (l.registry.stations.get? s).map (·.connectors)
  | .record s => l.database.chargePoints.get? s
  | .shelf s => l.database.connectors.get? s
  | .samples s => l.database.samples.get? s
  | .running id => l.registry.transactions.get? id
  | .filed id => l.database.transactions.get? id
  | .tag idTag => l.database.tags.get? idTag
  | .counter => l.registry.nextId

def post (l : Ledger) : Entry → Ledger
  | .enroll s => (l.setRegistry (l.registry.register { id := s })).setDatabase
      (l.database.addChargePoint { id := s })
  | .see cp => l.setRegistry (l.registry.setChargePoint cp)
  | .amend cp => (l.setRegistry (l.registry.setChargePoint cp)).setDatabase
      (l.database.updateChargePoint cp)
  | .sample s => l.setDatabase (l.database.addSample s)
  | .tag idTag => l.setDatabase (l.database.provideTag idTag)
  | .enter t => l.enter t
  | .put s c => l.putConnector s c
  | .forget id => l.forget id
  | .settle t => l.settle t
  | .limit s c amps =>
    (l.setRegistry (l.registry.setConnector s { c with limit := amps })).setDatabase
      (l.database.limitConnector s c.id amps)

def postAll (l : Ledger) (es : List Entry) : Ledger := es.foldl post l

theorem postAll_append (es es' : List Entry) : l.postAll (es ++ es') = (l.postAll es).postAll es' :=
  List.foldl_append

section Racks

variable {r : Registry} (s' : String)

theorem connector?_eq_rack (s : String) (i : UInt32) :
    r.connector? s i = ((r.stations.get? s).map (·.connectors)).bind (·.get? i) := by
  rw [Option.bind_map]
  rfl

theorem rack_setChargePoint (cp : ChargePoint) :
    ((r.setChargePoint cp).stations.get? s').map (·.connectors) =
      (r.stations.get? s').map (·.connectors) := by
  rw [Registry.setChargePoint, Table.get?_modify_eq_map, Option.map_map]
  congr 1
  funext x
  simp only [Function.comp_apply]
  split <;> rfl

theorem rack_setConnector (s : String) (c : Connector) :
    ((r.setConnector s c).stations.get? s').map (·.connectors) =
      if s' = s then ((r.stations.get? s').map (·.connectors)).map (·.insert c.id c)
      else (r.stations.get? s').map (·.connectors) := by
  rw [Registry.setConnector, Table.get?_modify_eq_map, Option.map_map]
  split
  · next h => simp [h, Function.comp_def]
  · simp [Function.comp_def]

end Racks

theorem content_post (l : Ledger) (e : Entry) (p : Place) :
    (l.post e).content p = e.change p (l.content p) := by
  cases e with
  | enroll s =>
    rw [post, Registry.register_eq, Database.addChargePoint_eq]
    cases p with
    | seat s' | rack s' =>
      rw [Entry.change_eq_ite (q := s' = s) (by simp [Entry.places])]
      have hget := Table.get?_provide l.registry.stations s { chargePoint := { id := s } } s'
      by_cases h : s' = s
      · cases hs : l.registry.stations.get? s' <;>
          simp_all [Entry.write, content, Registry.chargePoint?]
      · simp_all [content, Registry.chargePoint?]
    | record s' =>
      rw [Entry.change_eq_ite (q := s' = s) (by simp [Entry.places])]
      exact Table.get?_provide ..
    | _ => rfl
  | see cp =>
    cases p with
    | seat s =>
      rw [Entry.change_eq_ite (q := s = cp.id) (by simp [Entry.places])]
      exact Registry.chargePoint?_setChargePoint cp s
    | rack s => exact rack_setChargePoint s cp
    | _ => rfl
  | amend cp =>
    rw [post, Database.updateChargePoint_eq]
    cases p with
    | seat s =>
      rw [Entry.change_eq_ite (q := s = cp.id) (by simp [Entry.places])]
      exact Registry.chargePoint?_setChargePoint cp s
    | rack s => exact rack_setChargePoint s cp
    | record s =>
      rw [Entry.change_eq_ite (q := s = cp.id) (by simp [Entry.places])]
      exact Table.get?_replace ..
    | _ => rfl
  | sample m =>
    cases p with
    | samples s =>
      rw [Entry.change_eq_ite (q := s = m.chargePoint) (by simp [Entry.places])]
      exact Table.get?_insert_of_get? l.database.samples m.chargePoint
        (fun x => x.getD [] ++ [m]) s
    | _ => rfl
  | tag idTag =>
    cases p with
    | tag idTag' =>
      rw [Entry.change_eq_ite (q := idTag' = idTag) (by simp [Entry.places])]
      exact Table.get?_provide ..
    | _ => rfl
  | enter t =>
    rw [post, enter, Database.addTransaction_eq_provide]
    cases p with
    | running id =>
      rw [Entry.change_eq_ite (q := id = t.id) (by simp [Entry.places])]
      exact Table.get?_insert ..
    | filed id =>
      rw [Entry.change_eq_ite (q := id = t.id) (by simp [Entry.places])]
      exact Table.get?_provide ..
    | _ => rfl
  | put s c =>
    cases p with
    | seat s' => exact Registry.chargePoint?_setConnector s c s'
    | rack s' =>
      rw [Entry.change_eq_ite (q := s' = s) (by simp [Entry.places])]
      exact rack_setConnector s' s c
    | shelf s' =>
      rw [Entry.change_eq_ite (q := s' = s) (by simp [Entry.places])]
      exact Table.get?_insert_of_get? l.database.connectors s
        (fun x => (x.getD ∅).insert c.id c) s'
    | _ => rfl
  | forget id =>
    cases p with
    | running id' =>
      rw [Entry.change_eq_ite (q := id' = id) (by simp [Entry.places])]
      exact Table.get?_erase ..
    | _ => rfl
  | settle t =>
    rw [post, settle, Database.updateTransaction_eq]
    cases p with
    | running id =>
      rw [Entry.change_eq_ite (q := id = t.id) (by simp [Entry.places])]
      exact Table.get?_erase ..
    | filed id =>
      rw [Entry.change_eq_ite (q := id = t.id) (by simp [Entry.places])]
      exact Table.get?_replace ..
    | _ => rfl
  | limit s c amps =>
    cases p with
    | seat s' => exact Registry.chargePoint?_setConnector s _ s'
    | rack s' =>
      rw [Entry.change_eq_ite (q := s' = s) (by simp [Entry.places])]
      exact rack_setConnector s' s { c with limit := amps }
    | shelf s' =>
      rw [Entry.change_eq_ite (q := s' = s) (by simp [Entry.places])]
      exact Table.get?_insert_of_get? l.database.connectors s
        (fun x =>
          let d := ((x.getD ∅).get? c.id).getD { id := c.id }
          (x.getD ∅).insert d.id { d with limit := amps }) s'
    | _ => rfl

theorem content_postAll (l : Ledger) (es : List Entry) (p : Place) :
    (l.postAll es).content p = Entry.changeAll es p (l.content p) := by
  induction es generalizing l with
  | nil => rfl
  | cons e rest ih =>
    rw [postAll, List.foldl_cons, ← postAll, ih, content_post]
    rfl

theorem content_postAll_of_not_mem {es : List Entry} {p : Place} (h : ∀ e ∈ es, p ∉ e.places)
    (l : Ledger) : (l.postAll es).content p = l.content p := by
  rw [content_postAll, Entry.changeAll_of_not_mem h]

/-- What stands at a place but for when a charge point was last seen. -/
def view (l : Ledger) (p : Place) : p.Content := p.unseen (l.content p)

theorem view_postAll (l : Ledger) (es : List Entry) (p : Place) :
    (l.postAll es).view p = Entry.changeAll (es.map Entry.unseen) p (l.view p) := by
  rw [view, content_postAll, Entry.unseen_changeAll]
  rfl

structure SameRecords (l l' : Ledger) : Prop where
  stations : l.registry.stations.map Station.unseen = l'.registry.stations.map Station.unseen
  transactions : l.registry.transactions = l'.registry.transactions
  nextId : l.registry.nextId = l'.registry.nextId
  database : l.database.unseen = l'.database.unseen

/-- Whoever has the same at each place, and the same locations, has the same in all. -/
theorem SameRecords.of_view (h : ∀ p, l.view p = l'.view p)
    (hl : l.database.locations = l'.database.locations) : l.SameRecords l' where
  stations := by
    refine Table.ext_get? fun s => ?_
    rw [Table.get?_map, Table.get?_map]
    refine Registry.map_get?_stations (h (.seat s)) fun i => ?_
    rw [connector?_eq_rack, connector?_eq_rack]
    exact congrArg (Option.bind · (·.get? i)) (h (.rack s))
  transactions := Table.ext_get? fun id => h (.running id)
  nextId := h .counter
  database := by
    have hc : l.database.chargePoints.map ChargePoint.unseen =
        l'.database.chargePoints.map ChargePoint.unseen :=
      Table.ext_get? fun s => by
        rw [Table.get?_map, Table.get?_map]
        exact h (.record s)
    have hs : l.database.connectors = l'.database.connectors := Table.ext_get? fun s => h (.shelf s)
    have ht : l.database.transactions = l'.database.transactions :=
      Table.ext_get? fun id => h (.filed id)
    have hm : l.database.samples = l'.database.samples := Table.ext_get? fun s => h (.samples s)
    have hg : l.database.tags = l'.database.tags := Table.ext_get? fun t => h (.tag t)
    rw [Database.unseen, Database.unseen, hc, hs, ht, hm, hg, hl]

end Ledger

end CentralSystem
