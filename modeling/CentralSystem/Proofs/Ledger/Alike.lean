import CentralSystem.Proofs.Ledger.Sites

namespace CentralSystem

def Station.unseen (x : Station) : Station := { x with chargePoint := x.chargePoint.unseen }

namespace Database

def unseen (db : Database) : Database :=
  { db with chargePoints := db.chargePoints.map ChargePoint.unseen }

variable {db : Database}

theorem unseen_addChargePoint (cp : ChargePoint) :
    (db.addChargePoint cp).unseen = db.unseen.addChargePoint cp.unseen := by
  have hc : db.unseen.chargePoints.contains cp.unseen.id = db.chargePoints.contains cp.id :=
    Table.contains_map ..
  unfold addChargePoint
  rw [hc]
  split
  · rfl
  · exact congrArg (fun t => { db with chargePoints := t }) (Table.map_insert ..)

theorem unseen_updateChargePoint (cp : ChargePoint) :
    (db.updateChargePoint cp).unseen = db.unseen.updateChargePoint cp.unseen := by
  have hc : db.unseen.chargePoints.contains cp.unseen.id = db.chargePoints.contains cp.id :=
    Table.contains_map ..
  unfold updateChargePoint
  rw [hc]
  split
  · exact congrArg (fun t => { db with chargePoints := t }) (Table.map_insert ..)
  · rfl

theorem unseen_addTransaction (t : Transaction) :
    (db.addTransaction t).unseen = db.unseen.addTransaction t :=
  apply_ite Database.unseen ..

theorem unseen_updateTransaction (t : Transaction) :
    (db.updateTransaction t).unseen = db.unseen.updateTransaction t :=
  apply_ite Database.unseen ..

theorem unseen_foldl_addSample (samples : List MeterSample) (db : Database) :
    (samples.foldl addSample db).unseen = samples.foldl addSample db.unseen := by
  induction samples generalizing db with
  | nil => rfl
  | cons s rest ih => exact ih (db.addSample s)

end Database

namespace Registry

variable {r : Registry}

theorem map_get?_stations {r' : Registry} {s : String}
    (hcp : (r.chargePoint? s).map ChargePoint.unseen = (r'.chargePoint? s).map ChargePoint.unseen)
    (hcon : ∀ i, r.connector? s i = r'.connector? s i) :
    (r.stations.get? s).map Station.unseen = (r'.stations.get? s).map Station.unseen := by
  cases hx : r.stations.get? s with
  | none =>
    cases hx' : r'.stations.get? s with
    | none => rfl
    | some x' => simp [chargePoint?, hx, hx'] at hcp
  | some x =>
    cases hx' : r'.stations.get? s with
    | none => simp [chargePoint?, hx, hx'] at hcp
    | some x' =>
      have hp : x.chargePoint.unseen = x'.chargePoint.unseen := by
        simpa [chargePoint?, hx, hx'] using hcp
      have hc : x.connectors = x'.connectors :=
        Table.ext_get? fun i => by simpa [connector?, hx, hx'] using hcon i
      simp [Station.unseen, hp, hc]

theorem map_setChargePoint (cp : ChargePoint) :
    (r.setChargePoint cp).stations.map Station.unseen =
      (r.stations.map Station.unseen).modify cp.id fun x => { x with chargePoint := cp.unseen } :=
  Table.map_modify _ _ fun _ => rfl

theorem map_setConnector (station : String) (c : Connector) :
    (r.setConnector station c).stations.map Station.unseen =
      (r.stations.map Station.unseen).modify station
        fun x => { x with connectors := x.connectors.insert c.id c } :=
  Table.map_modify _ _ fun _ => rfl

theorem map_register {cp : ChargePoint} (h : r.knows cp.id = false) :
    (r.register cp).stations.map Station.unseen =
      (r.stations.map Station.unseen).insert cp.id { chargePoint := cp.unseen } := by
  rw [register, if_neg (by simp [h])]
  exact Table.map_insert ..

end Registry

namespace Ledger

variable {l l' : Ledger}

theorem record?_forget (id id' : Int32) : (l.forget id).record? id' =
    if id' = id then l.database.transactions.get? id' else l.record? id' := by
  rw [record?, registry_forget, Registry.removeTransaction, Table.get?_erase]
  split
  · rfl
  · rfl

theorem record?_settle (t : Transaction) (id : Int32) : (l.settle t).record? id =
    if id = t.id then (l.database.updateTransaction t).transactions.get? id else l.record? id := by
  have hother (h : id ≠ t.id) : (l.database.updateTransaction t).transactions.get? id =
      l.database.transactions.get? id := by
    unfold Database.updateTransaction
    split
    · exact (Table.get?_insert ..).trans (if_neg h)
    · rfl
  rw [settle, record?_forget]
  split
  · rfl
  · rename_i h
    exact congrArg (l.registry.transactions.get? id).or (hother h)

theorem record?_enter (t : Transaction) (id : Int32) : (l.enter t).record? id =
    if id = t.id then some t else l.record? id := by
  have hother (h : id ≠ t.id) : (l.database.addTransaction t).transactions.get? id =
      l.database.transactions.get? id := by
    unfold Database.addTransaction
    split
    · rfl
    · exact (Table.get?_insert ..).trans (if_neg h)
  rw [record?, registry_enter, Registry.putTransaction, Table.get?_insert]
  split
  · rfl
  · rename_i h
    exact congrArg (l.registry.transactions.get? id).or (hother h)

structure Alike (l l' : Ledger) : Prop where
  whole : l.storage.broken = []
  whole' : l'.storage.broken = []
  stations : l.registry.stations.map Station.unseen = l'.registry.stations.map Station.unseen
  nextId : l.registry.nextId = l'.registry.nextId
  record : ∀ id, l.record? id = l'.record? id
  database : l.database.unseen = l'.database.unseen
  queue : l.queue = l'.queue
  events : l.events = l'.events

namespace Alike

theorem of_quiet (h : Alike l.quiet l'.quiet) : Alike l l' :=
  ⟨h.whole, h.whole', h.stations, h.nextId, h.record, h.database, h.queue, h.events⟩

variable (h : Alike l l')
include h

theorem quiet : Alike l.quiet l'.quiet :=
  ⟨h.whole, h.whole', h.stations, h.nextId, h.record, h.database, h.queue, h.events⟩

theorem transactions : l.database.transactions = l'.database.transactions :=
  show l.database.unseen.transactions = l'.database.unseen.transactions by rw [h.database]

theorem tags : l.database.tags = l'.database.tags :=
  show l.database.unseen.tags = l'.database.unseen.tags by rw [h.database]

theorem station (s : String) : (l.registry.stations.get? s).map Station.unseen =
    (l'.registry.stations.get? s).map Station.unseen := by
  rw [← Table.get?_map, h.stations, Table.get?_map]

theorem knows (s : String) : l.registry.knows s = l'.registry.knows s := by
  rw [Registry.knows, ← Table.contains_map _ Station.unseen, h.stations, Table.contains_map]
  rfl

theorem connector (s : String) (i : UInt32) :
    l.registry.connector? s i = l'.registry.connector? s i := by
  have hs := h.station s
  rw [Registry.connector?, Registry.connector?]
  cases hx : l.registry.stations.get? s <;> cases hx' : l'.registry.stations.get? s <;>
    simp_all [Station.unseen]

theorem chargePoint (s : String) :
    (l.registry.chargePoint? s = none ∧ l'.registry.chargePoint? s = none) ∨
      ∃ cp cp', l.registry.chargePoint? s = some cp ∧ l'.registry.chargePoint? s = some cp' ∧
        cp.unseen = cp'.unseen := by
  have hs := h.station s
  rw [Registry.chargePoint?, Registry.chargePoint?]
  cases hx : l.registry.stations.get? s <;> cases hx' : l'.registry.stations.get? s <;>
    simp_all [Station.unseen]

theorem publish (e : Event) : Alike (l.publish e) (l'.publish e) :=
  { h with events := congrArg (· ++ [e]) h.events }

theorem order (settings : Settings) (o : WatchOrder) :
    Alike (l.order settings o) (l'.order settings o) := by
  unfold Ledger.order
  split
  · exact { h with queue := congrArg (· ++ [o]) h.queue }
  · exact h

theorem note (n n' : Notice) : Alike (l.note n) (l'.note n') := of_quiet h.quiet

theorem putConnector (s : String) (c : Connector) :
    Alike (l.putConnector s c) (l'.putConnector s c) :=
  { h with
    stations := by
      rw [registry_putConnector, registry_putConnector, Registry.map_setConnector, h.stations,
        ← Registry.map_setConnector]
    database := congrArg (·.putConnector s c) h.database }

theorem forget (id : Int32) : Alike (l.forget id) (l'.forget id) :=
  { h with
    record := fun id' => by
      rw [record?_forget, record?_forget, h.transactions, h.record] }

theorem settle (t : Transaction) : Alike (l.settle t) (l'.settle t) := by
  have hd : (l.database.updateTransaction t).unseen = (l'.database.updateTransaction t).unseen := by
    rw [Database.unseen_updateTransaction, h.database, Database.unseen_updateTransaction]
  have ht : (l.database.updateTransaction t).transactions =
      (l'.database.updateTransaction t).transactions :=
    show (l.database.updateTransaction t).unseen.transactions = _ by rw [hd]; rfl
  exact { h with
    record := fun id => by rw [record?_settle, record?_settle, h.record, ht]
    database := hd }

theorem enter (t : Transaction) : Alike (l.enter t) (l'.enter t) :=
  { h with
    nextId := congrArg (· + 1) h.nextId
    record := fun id => by rw [record?_enter, record?_enter, h.record]
    database := by
      simp only [Ledger.database, storage_enter, Database.unseen_addTransaction]
      rw [h.database] }

theorem unlink (t : Transaction) : Alike (l.unlink t) (l'.unlink t) := by
  unfold Ledger.unlink
  rw [h.connector]
  split
  · split
    · exact h.putConnector _ _
    · exact h
  · exact h

theorem setChargePoint {cp cp' : ChargePoint} (he : cp.unseen = cp'.unseen) :
    Alike (l.setRegistry (l.registry.setChargePoint cp))
      (l'.setRegistry (l'.registry.setChargePoint cp')) :=
  { h with
    stations := by
      rw [registry_setRegistry, registry_setRegistry, Registry.map_setChargePoint, h.stations,
        Registry.map_setChargePoint, (ChargePoint.of_unseen_eq he).1, he] }

theorem updateChargePoint {cp cp' : ChargePoint} (he : cp.unseen = cp'.unseen) :
    Alike (l.setDatabase (l.database.updateChargePoint cp))
      (l'.setDatabase (l'.database.updateChargePoint cp')) :=
  { h with
    record := fun id => by
      have hr := h.record id
      simp only [record?, registry_setDatabase, Ledger.database, storage_setDatabase,
        Database.transactions_updateChargePoint] at hr ⊢
      exact hr
    database := by
      simp only [Ledger.database, storage_setDatabase, Database.unseen_updateChargePoint, he]
      rw [h.database] }

theorem enroll {s : String} (hk : l.registry.knows s = false) :
    Alike ((l.setRegistry (l.registry.register { id := s })).setDatabase
        (l.database.addChargePoint { id := s }))
      ((l'.setRegistry (l'.registry.register { id := s })).setDatabase
        (l'.database.addChargePoint { id := s })) :=
  { h with
    stations := by
      simp only [registry_setDatabase, registry_setRegistry]
      rw [Registry.map_register hk, h.stations, Registry.map_register (h.knows s ▸ hk)]
    nextId := by simpa using h.nextId
    record := fun id => by
      have hr := h.record id
      simp only [record?, registry_setDatabase, registry_setRegistry, Ledger.database,
        storage_setDatabase, Database.transactions_addChargePoint,
        Registry.transactions_register] at hr ⊢
      exact hr
    database := by
      simp only [Ledger.database, storage_setDatabase, Database.unseen_addChargePoint]
      rw [h.database] }

theorem putTag (tag : UserTag) : Alike (l.setDatabase (l.database.putTag tag))
    (l'.setDatabase (l'.database.putTag tag)) :=
  { h with database := congrArg (·.putTag tag) h.database }

theorem addSamples (samples : List MeterSample) :
    Alike (l.setDatabase (samples.foldl Database.addSample l.database))
      (l'.setDatabase (samples.foldl Database.addSample l'.database)) := by
  have ht (m : Ledger) : (samples.foldl Database.addSample m.database).transactions =
      m.database.transactions := by
    obtain ⟨s, hs⟩ := Database.foldl_addSample samples m.database
    rw [hs]
  exact { h with
    record := fun id => by
      have hr := h.record id
      simp only [record?, registry_setDatabase, Ledger.database, storage_setDatabase] at hr ⊢
      rw [ht, ht]
      exact hr
    database := by
      simp only [Ledger.database, storage_setDatabase, Database.unseen_foldl_addSample]
      rw [h.database] }

end Alike

end Ledger

end CentralSystem
