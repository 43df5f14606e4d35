import CentralSystem.Ledger.Report
import CentralSystem.Proofs.Registry
import CentralSystem.Proofs.Storage

namespace CentralSystem

def Event.isOfTransaction : Event → Bool
  | .transactionStarted .. | .transactionStopped .. => true
  | _ => false

namespace Ledger

abbrev database (l : Ledger) : Database := l.storage.database

def setDatabase (l : Ledger) (db : Database) : Ledger :=
  { l with storage := { l.storage with database := db } }

/-- The ledger without its journal. -/
def quiet (l : Ledger) : Ledger := { l with journal := [] }

def record? (l : Ledger) (id : Int32) : Option Transaction :=
  (l.registry.transactions.get? id).or (l.database.transactions.get? id)

def enter (l : Ledger) (t : Transaction) : Ledger :=
  (l.setRegistry ({ l.registry with nextId := l.registry.nextId + 1 }.putTransaction t)).setDatabase
    (l.database.addTransaction t)

def putConnector (l : Ledger) (station : String) (c : Connector) : Ledger :=
  (l.setRegistry (l.registry.setConnector station c)).setDatabase
    (l.database.putConnector station c)

def forget (l : Ledger) (id : Int32) : Ledger := l.setRegistry (l.registry.removeTransaction id)

/-- The ledger with a transaction closed: on record in the database, and gone from the registry. -/
def settle (l : Ledger) (t : Transaction) : Ledger :=
  (l.setDatabase (l.database.updateTransaction t)).forget t.id

/-- The ledger with the connector of a transaction freed, if it still has that transaction. -/
def unlink (l : Ledger) (t : Transaction) : Ledger :=
  match l.registry.connector? t.chargePoint t.connector with
  | some c =>
    if c.transaction = t.id then
      l.putConnector t.chargePoint { c with transaction := noTransaction }
    else l
  | none => l

def Keyed (l : Ledger) : Prop := l.registry.Keyed ∧ l.database.Keyed

end Ledger

variable (settings : Settings) (sharing : Bool)

/-- The elementary changes of a ledger, each with the number of transaction ids that it takes.
Limits are set only where power is shared out. -/
inductive Change : Nat → Ledger → Ledger → Prop
  | publish {l e} (he : e.isOfTransaction = false) : Change 0 l (l.publish e)
  | tag {l idTag} (hs : settings.autoRegisterTags = true) (hi : idTag.isEmpty = false)
      (h : l.database.tags.get? idTag = none) :
      Change 0 l (l.setDatabase (l.database.putTag (.onFirstUse idTag)))
  | samples {l} (samples : List MeterSample) :
      Change 0 l (l.setDatabase (samples.foldl Database.addSample l.database))
  | enroll {l station} (h : l.registry.knows station = false) :
      Change 0 l ((l.setRegistry (l.registry.register { id := station })).setDatabase
        (l.database.addChargePoint { id := station }))
  | see {l station cp} (now : Timestamp) (h : l.registry.chargePoint? station = some cp) :
      Change 0 l (l.setRegistry (l.registry.setChargePoint (cp.touch now)))
  | amend {l station cp cp'} (h : l.registry.chargePoint? station = some cp) (hid : cp'.id = cp.id)
      (hloc : cp'.location = cp.location) (hsmart : cp'.smartCharging = cp.smartCharging)
      (hon : cp'.enabled = cp.enabled) :
      Change 0 l ((l.setRegistry (l.registry.setChargePoint cp')).setDatabase
        (l.database.updateChargePoint cp'))
  | report {l station c c'} (hk : l.registry.knows station = true) (hid : c'.id = c.id)
      (hc : (l.registry.connector? station c.id).getD { id := c.id } = c)
      (htx : c'.transaction = c.transaction) (hlim : c'.limit = c.limit) :
      Change 0 l (l.putConnector station c')
  | release {l station c c'} (hc : l.registry.connector? station c.id = some c)
      (ha : c.isActive = true) (hid : c'.id = c.id) (htx : c'.transaction = noTransaction)
      (hlim : c'.limit = c.limit) :
      Change 0 l (((l.putConnector station c').forget c.transaction).order settings
        (.unregister c.transaction))
  | enter {l t} (hid : t.id = l.registry.nextId) (ho : t.isFinished = false)
      (hk : l.registry.knows t.chargePoint = false) :
      Change 1 l (((l.enter t).publish (.ofStart t)).order settings
        (.register t.id ⟨t.chargePoint, t.connector⟩))
  | occupy {l t c} (hid : t.id = l.registry.nextId) (ho : t.isFinished = false)
      (hc : l.registry.connector? t.chargePoint c.id = some c) (hi : t.connector = c.id)
      (ha : c.isActive = false) :
      Change 1 l ((((l.enter t).putConnector t.chargePoint { c with transaction := t.id }).publish
        (.ofStart t)).order settings (.register t.id ⟨t.chargePoint, t.connector⟩))
  | displace {l t c} (hid : t.id = l.registry.nextId) (ho : t.isFinished = false)
      (hc : l.registry.connector? t.chargePoint c.id = some c) (hi : t.connector = c.id)
      (ha : c.isActive = true) :
      Change 1 l ((((((l.enter t).putConnector t.chargePoint { c with transaction := t.id }).forget
        c.transaction).order settings (.unregister c.transaction)).publish (.ofStart t)).order
        settings (.register t.id ⟨t.chargePoint, t.connector⟩))
  | close {l t t' c} (now : Timestamp) (hr : l.record? t.id = some t) (ho : t.isFinished = false)
      (hid : t'.id = t.id) (hs : t'.chargePoint = t.chargePoint) (hi : t'.connector = t.connector)
      (hf : t'.isFinished = true)
      (hc : l.registry.connector? t.chargePoint t.connector = some c) (htx : c.transaction = t.id) :
      Change 0 l ((((l.putConnector t.chargePoint { c with transaction := noTransaction }).settle
        t').publish (.ofStop t' now)).order settings (.unregister t.id))
  | closeLoose {l t t'} (now : Timestamp) (hr : l.record? t.id = some t) (ho : t.isFinished = false)
      (hid : t'.id = t.id) (hs : t'.chargePoint = t.chargePoint) (hi : t'.connector = t.connector)
      (hf : t'.isFinished = true)
      (hc : ∀ c, l.registry.connector? t.chargePoint t.connector = some c → c.transaction ≠ t.id) :
      Change 0 l (((l.settle t').publish (.ofStop t' now)).order settings (.unregister t.id))
  | discard {l t} (hr : l.record? t.id = some t) (hf : t.isFinished = true) :
      Change 0 l (l.forget t.id)
  | limit {l station c} (hs : sharing = true) (amps : Int32)
      (hc : l.registry.connector? station c.id = some c) :
      Change 0 l ((l.setRegistry (l.registry.setConnector station
        { c with limit := amps })).setDatabase (l.database.limitConnector station c.id amps))

inductive Changes : Nat → Ledger → Ledger → Prop
  | refl (l : Ledger) : Changes 0 l l
  | tail {m n l l' l''} (hs : Changes m l l') (h : Change settings sharing n l' l'') :
      Changes (m + n) l l''

namespace Changes

variable {settings} {sharing}

theorem one {n : Nat} {l l' : Ledger} (h : Change settings sharing n l l') :
    Changes settings sharing n l l' := by
  simpa using (Changes.refl l).tail h

theorem trans {m n : Nat} {l l' l'' : Ledger} (h : Changes settings sharing m l l')
    (h' : Changes settings sharing n l' l'') : Changes settings sharing (m + n) l l'' := by
  induction h' with
  | refl => exact h
  | tail _ hc ih => simpa [Nat.add_assoc] using (ih h).tail hc

theorem preserve {P : Ledger → Prop}
    (hP : ∀ {n l l'}, Change settings sharing n l l' → P l → P l') {n : Nat} {l l' : Ledger}
    (h : Changes settings sharing n l l') (hl : P l) : P l' := by
  induction h with
  | refl => exact hl
  | tail _ hc ih => exact hP hc (ih hl)

end Changes

namespace Ledger

variable {settings} {l : Ledger}

@[simp] theorem registry_setRegistry (r : Registry) : (l.setRegistry r).registry = r := rfl

@[simp] theorem storage_setRegistry (r : Registry) : (l.setRegistry r).storage = l.storage := rfl

@[simp] theorem registry_setDatabase (db : Database) :
    (l.setDatabase db).registry = l.registry := rfl

@[simp] theorem storage_setDatabase (db : Database) :
    (l.setDatabase db).storage = { l.storage with database := db } := rfl

@[simp] theorem registry_publish (e : Event) : (l.publish e).registry = l.registry := rfl

@[simp] theorem storage_publish (e : Event) : (l.publish e).storage = l.storage := rfl

@[simp] theorem registry_order (o : WatchOrder) :
    (l.order settings o).registry = l.registry := by
  unfold order
  split <;> rfl

@[simp] theorem storage_order (o : WatchOrder) :
    (l.order settings o).storage = l.storage := by
  unfold order
  split <;> rfl

theorem storage_release (l : Ledger) (id : Int32) : (l.release settings id).storage = l.storage :=
  storage_order _

@[simp] theorem registry_enter (t : Transaction) :
    (l.enter t).registry = { l.registry with nextId := l.registry.nextId + 1 }.putTransaction t :=
  rfl

@[simp] theorem storage_enter (t : Transaction) :
    (l.enter t).storage = { l.storage with database := l.database.addTransaction t } := rfl

@[simp] theorem registry_putConnector (station : String) (c : Connector) :
    (l.putConnector station c).registry = l.registry.setConnector station c := rfl

@[simp] theorem storage_putConnector (station : String) (c : Connector) :
    (l.putConnector station c).storage =
      { l.storage with database := l.database.putConnector station c } := rfl

@[simp] theorem registry_forget (id : Int32) :
    (l.forget id).registry = l.registry.removeTransaction id := rfl

@[simp] theorem storage_forget (id : Int32) : (l.forget id).storage = l.storage := rfl

@[simp] theorem registry_settle (t : Transaction) :
    (l.settle t).registry = l.registry.removeTransaction t.id := rfl

@[simp] theorem storage_settle (t : Transaction) :
    (l.settle t).storage = { l.storage with database := l.database.updateTransaction t } := rfl

end Ledger

open Registry Ledger in
theorem Change.keyed {settings : Settings} {sharing : Bool} {n : Nat} {l l' : Ledger}
    (hc : Change settings sharing n l l') (h : l.Keyed) : l'.Keyed := by
  obtain ⟨hr, hd⟩ := h
  have hent (t : Transaction) :
      ({ l.registry with nextId := l.registry.nextId + 1 }.putTransaction t).Keyed :=
    Registry.Keyed.putTransaction (r := { l.registry with nextId := l.registry.nextId + 1 })
      ⟨hr.chargePoint, hr.connector, hr.transaction⟩ t
  cases hc with
  | publish => exact ⟨hr, hd⟩
  | tag => exact ⟨hr, hd.chargePoint, hd.connector, hd.transaction, hd.location⟩
  | samples samples =>
    obtain ⟨s, hs⟩ := Database.foldl_addSample samples l.database
    refine ⟨hr, ?_⟩
    simp only [database, storage_setDatabase, hs]
    exact ⟨hd.chargePoint, hd.connector, hd.transaction, hd.location⟩
  | enroll => exact ⟨hr.register _, hd.addChargePoint _⟩
  | see => exact ⟨hr.setChargePoint _, hd⟩
  | amend => exact ⟨hr.setChargePoint _, hd.updateChargePoint _⟩
  | report hk => exact ⟨hr.setConnector hk _, hd.putConnector _ _⟩
  | release hc =>
    simp only [Ledger.Keyed, registry_order, database, storage_order]
    exact ⟨(hr.setConnector (knows_of_connector? hc) _).removeTransaction _, hd.putConnector _ _⟩
  | enter =>
    simp only [Ledger.Keyed, registry_order, database, storage_order]
    exact ⟨hent _, hd.addTransaction _⟩
  | occupy _ _ hc =>
    simp only [Ledger.Keyed, registry_order, database, storage_order]
    exact ⟨(hent _).setConnector (knows_of_connector? hc) _,
      (hd.addTransaction _).putConnector _ _⟩
  | displace _ _ hc =>
    simp only [Ledger.Keyed, registry_order, database, storage_order, registry_publish,
      storage_publish]
    exact ⟨((hent _).setConnector (knows_of_connector? hc) _).removeTransaction _,
      (hd.addTransaction _).putConnector _ _⟩
  | close _ _ _ _ _ _ _ hc =>
    simp only [Ledger.Keyed, registry_order, database, storage_order]
    exact ⟨(hr.setConnector (knows_of_connector? hc) _).removeTransaction _,
      (hd.putConnector _ _).updateTransaction _⟩
  | closeLoose =>
    simp only [Ledger.Keyed, registry_order, database, storage_order]
    exact ⟨hr.removeTransaction _, hd.updateTransaction _⟩
  | discard => exact ⟨hr.removeTransaction _, hd⟩
  | limit _ amps hc =>
    exact ⟨hr.setConnector (knows_of_connector? hc) _, hd.putConnector _ _⟩

end CentralSystem
