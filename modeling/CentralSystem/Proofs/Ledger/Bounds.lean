import CentralSystem.Proofs.Ledger.Load
import CentralSystem.Proofs.Message.Call

namespace CentralSystem

namespace Table

variable {κ α : Type} [Ord κ] [DecidableEq κ]

def All (t : Table κ α) (P : α → Prop) : Prop := ∀ k a, t.get? k = some a → P a

variable {t : Table κ α} {P : α → Prop}

instance [Std.TransOrd κ] [DecidablePred P] : Decidable (t.All P) :=
  decidable_of_iff (∀ e ∈ t.entries, P e.2)
    ⟨fun h _ _ ha => h _ (mem_entries_iff.2 ha), fun h _ he => h _ _ (mem_entries_iff.1 he)⟩

namespace All

theorem empty : (∅ : Table κ α).All P := nofun

theorem erase (h : t.All P) (k : κ) : (t.erase k).All P := by
  intro k' a ha
  rw [get?_erase] at ha
  split at ha
  · cases ha
  · exact h k' a ha

variable [Std.TransOrd κ]

theorem of_mem_values (h : t.All P) {a : α} (ha : a ∈ t.values) : P a := by
  obtain ⟨k, hk⟩ := mem_values_iff.1 ha
  exact h k a hk

variable [Std.LawfulEqOrd κ]

theorem insert (h : t.All P) (k : κ) {a : α} (ha : P a) : (t.insert k a).All P := by
  intro k' a' ha'
  rw [get?_insert] at ha'
  split at ha'
  · exact Option.some.inj ha' ▸ ha
  · exact h k' a' ha'

theorem modify (h : t.All P) (k : κ) {f : α → α} (hf : ∀ a, P a → P (f a)) :
    (t.modify k f).All P := by
  unfold Table.modify
  split
  · next a ha => exact h.insert k (hf a (h k a ha))
  · exact h

end All

end Table

namespace Bound

variable {α : Type} {field : String} {most : Nat} {a : α}

@[simp] theorem holds_length {get : α → String} :
    (length field most get).holds a = true ↔ (get a).length ≤ most := decide_eq_true_iff

@[simp] theorem holds_optionalLength {get : α → Option String} :
    (optionalLength field most get).holds a = true ↔ ∀ s ∈ get a, s.length ≤ most := by
  simp [optionalLength, Option.all_eq_true]

@[simp] theorem holds_positive {get : α → UInt32} :
    (positive field get).holds a = true ↔ get a ≠ 0 := by
  simp [positive]

end Bound

theorem Schema.check_eq_ok_iff {α : Type} {schema : Schema α} {a : α} :
    schema.check a = .ok () ↔ ∀ b ∈ schema.bounds, b.holds a = true := by
  unfold check
  split
  · next b hb =>
    have hfails : b.holds a = false := by simpa using List.find?_some hb
    simpa using ⟨b, List.mem_of_find?_eq_some hb, hfails⟩
  · next hnone => simpa using hnone

def Request.check : Request → Except Error Unit
  | bootNotification r => BootNotification.schema.check r
  | authorize r => Authorize.schema.check r
  | heartbeat r => Heartbeat.schema.check r
  | startTransaction r => StartTransaction.schema.check r
  | stopTransaction r => StopTransaction.schema.check r
  | meterValues r => MeterValues.schema.check r
  | statusNotification r => StatusNotification.schema.check r
  | dataTransfer r => DataTransfer.schema.check r
  | diagnosticsStatusNotification r => DiagnosticsStatusNotification.schema.check r
  | firmwareStatusNotification r => FirmwareStatusNotification.schema.check r

theorem Request.check_of_decode {action : String} {payload : Json} {r : Request}
    (h : decode action payload = .ok r) : r.check = .ok () := by
  obtain ⟨a, -, hr⟩ := decode_eq_ok_iff.1 h
  cases a
  case bootNotification | authorize | heartbeat | startTransaction | stopTransaction | meterValues |
      statusNotification | dataTransfer | diagnosticsStatusNotification |
      firmwareStatusNotification =>
    obtain ⟨q, hq, rfl⟩ := map_eq_ok_iff.1 (Option.some.inj hr)
    exact (Schema.decode_eq_ok_iff.1 hq).2
  all_goals exact nomatch hr

structure Connector.Bounded (c : Connector) : Prop where
  id : c.id ≠ 0
  info : ∀ s ∈ c.info, s.length ≤ 50
  vendorErrorCode : ∀ s ∈ c.vendorErrorCode, s.length ≤ 50
  vendorId : ∀ s ∈ c.vendorId, s.length ≤ 255

structure ChargePoint.Bounded (cp : ChargePoint) : Prop where
  vendor : cp.vendor.length ≤ 20
  model : cp.model.length ≤ 20
  serialNumber : ∀ s ∈ cp.serialNumber, s.length ≤ 25
  firmwareVersion : ∀ s ∈ cp.firmwareVersion, s.length ≤ 50

structure Transaction.Bounded (t : Transaction) : Prop where
  connector : t.connector ≠ 0
  idTag : t.idTag.length ≤ 20

structure UserTag.Bounded (tag : UserTag) : Prop where
  nonempty : tag.idTag ≠ ""
  idTag : tag.idTag.length ≤ 20

instance (c : Connector) : Decidable c.Bounded :=
  decidable_of_iff (c.id ≠ 0 ∧ (∀ s ∈ c.info, s.length ≤ 50) ∧
      (∀ s ∈ c.vendorErrorCode, s.length ≤ 50) ∧ ∀ s ∈ c.vendorId, s.length ≤ 255)
    ⟨fun ⟨h₁, h₂, h₃, h₄⟩ => ⟨h₁, h₂, h₃, h₄⟩, fun ⟨h₁, h₂, h₃, h₄⟩ => ⟨h₁, h₂, h₃, h₄⟩⟩

instance (cp : ChargePoint) : Decidable cp.Bounded :=
  decidable_of_iff (cp.vendor.length ≤ 20 ∧ cp.model.length ≤ 20 ∧
      (∀ s ∈ cp.serialNumber, s.length ≤ 25) ∧ ∀ s ∈ cp.firmwareVersion, s.length ≤ 50)
    ⟨fun ⟨h₁, h₂, h₃, h₄⟩ => ⟨h₁, h₂, h₃, h₄⟩, fun ⟨h₁, h₂, h₃, h₄⟩ => ⟨h₁, h₂, h₃, h₄⟩⟩

instance (t : Transaction) : Decidable t.Bounded :=
  decidable_of_iff (t.connector ≠ 0 ∧ t.idTag.length ≤ 20)
    ⟨fun ⟨h₁, h₂⟩ => ⟨h₁, h₂⟩, fun ⟨h₁, h₂⟩ => ⟨h₁, h₂⟩⟩

instance (tag : UserTag) : Decidable tag.Bounded :=
  decidable_of_iff (tag.idTag ≠ "" ∧ tag.idTag.length ≤ 20)
    ⟨fun ⟨h₁, h₂⟩ => ⟨h₁, h₂⟩, fun ⟨h₁, h₂⟩ => ⟨h₁, h₂⟩⟩

structure Station.Bounded (s : Station) : Prop where
  chargePoint : s.chargePoint.Bounded
  connectors : s.connectors.All Connector.Bounded

structure Registry.Bounded (r : Registry) : Prop where
  stations : r.stations.All Station.Bounded
  transactions : r.transactions.All Transaction.Bounded

/-- What is on record keeps the bounds of the wire. -/
structure Database.Bounded (db : Database) : Prop where
  chargePoints : db.chargePoints.All ChargePoint.Bounded
  connectors : db.connectors.All fun t => t.All Connector.Bounded
  transactions : db.transactions.All Transaction.Bounded
  tags : db.tags.All UserTag.Bounded

structure Ledger.Bounded (l : Ledger) : Prop where
  registry : l.registry.Bounded
  database : l.database.Bounded

instance (db : Database) : Decidable db.Bounded :=
  decidable_of_iff (db.chargePoints.All ChargePoint.Bounded ∧
      (db.connectors.All fun t => t.All Connector.Bounded) ∧
      db.transactions.All Transaction.Bounded ∧ db.tags.All UserTag.Bounded)
    ⟨fun ⟨h₁, h₂, h₃, h₄⟩ => ⟨h₁, h₂, h₃, h₄⟩, fun ⟨h₁, h₂, h₃, h₄⟩ => ⟨h₁, h₂, h₃, h₄⟩⟩

theorem Connector.bounded_new {id : UInt32} (h : id ≠ 0) : Connector.Bounded { id } :=
  ⟨h, nofun, nofun, nofun⟩

theorem ChargePoint.bounded_new (id : String) : ChargePoint.Bounded { id } :=
  ⟨Nat.zero_le _, Nat.zero_le _, nofun, nofun⟩

namespace ChargePoint.Bounded

variable {cp : ChargePoint} (h : cp.Bounded)
include h

theorem touch (now : Timestamp) : (cp.touch now).Bounded :=
  ⟨h.vendor, h.model, h.serialNumber, h.firmwareVersion⟩

theorem identify {r : Request.BootNotification}
    (hr : Request.BootNotification.schema.check r = .ok ()) :
    (cp.identify r.chargePointVendor r.chargePointModel r.chargePointSerialNumber
      r.firmwareVersion).Bounded := by
  obtain ⟨hvendor, hmodel, hserial, -, hfirmware, -⟩ := by
    simpa [Schema.check_eq_ok_iff, Request.BootNotification.schema] using hr
  have hkept {given kept : Option String} {most : Nat}
      (hg : ∀ s, given = some s → s.length ≤ most) (hk : ∀ s ∈ kept, s.length ≤ most) :
      ∀ s ∈ given <|> kept, s.length ≤ most := by
    cases given with
    | none => exact hk
    | some s => exact hg
  exact ⟨hvendor, hmodel, hkept hserial h.serialNumber, hkept hfirmware h.firmwareVersion⟩

end ChargePoint.Bounded

namespace Connector.Bounded

variable {c : Connector} (h : c.Bounded)
include h

theorem relink (transaction limit : Int32) : Bounded { c with transaction, limit } :=
  ⟨h.id, h.info, h.vendorErrorCode, h.vendorId⟩

end Connector.Bounded

theorem UserTag.bounded_onFirstUse {idTag : String} (h : idTag ≠ "") (hl : idTag.length ≤ 20) :
    (onFirstUse idTag).Bounded := ⟨h, hl⟩

namespace Transaction.Bounded

variable {t : Transaction} (h : t.Bounded)
include h

theorem closed (r : Request.StopTransaction) : (Ledger.closed t r).Bounded := by
  unfold Ledger.closed finish
  dsimp only
  split <;> exact ⟨h.connector, h.idTag⟩

end Transaction.Bounded

namespace Registry.Bounded

variable {r : Registry} (h : r.Bounded)
include h

theorem chargePoint? {s : String} {cp : ChargePoint} (hcp : r.chargePoint? s = some cp) :
    cp.Bounded := by
  obtain ⟨x, hx, rfl⟩ := Option.map_eq_some_iff.1 hcp
  exact (h.stations s x hx).chargePoint

theorem connector? {s : String} {i : UInt32} {c : Connector} (hc : r.connector? s i = some c) :
    c.Bounded := by
  obtain ⟨x, hx, hc⟩ := Option.bind_eq_some_iff.1 hc
  exact (h.stations s x hx).connectors i c hc

theorem register {cp : ChargePoint} (hcp : cp.Bounded) : (r.register cp).Bounded := by
  unfold Registry.register
  split
  · exact h
  · exact ⟨h.stations.insert cp.id ⟨hcp, .empty⟩, h.transactions⟩

theorem setChargePoint {cp : ChargePoint} (hcp : cp.Bounded) : (r.setChargePoint cp).Bounded :=
  ⟨h.stations.modify cp.id fun _ hx => ⟨hcp, hx.connectors⟩, h.transactions⟩

theorem setConnector (station : String) {c : Connector} (hc : c.Bounded) :
    (r.setConnector station c).Bounded :=
  ⟨h.stations.modify station fun _ hx => ⟨hx.chargePoint, hx.connectors.insert c.id hc⟩,
    h.transactions⟩

theorem putTransaction {t : Transaction} (ht : t.Bounded) : (r.putTransaction t).Bounded :=
  ⟨h.stations, h.transactions.insert t.id ht⟩

theorem removeTransaction (id : Int32) : (r.removeTransaction id).Bounded :=
  ⟨h.stations, h.transactions.erase id⟩

end Registry.Bounded

namespace Database.Bounded

variable {db : Database} (h : db.Bounded)
include h

theorem connectorsOf (station : String) :
    (db.connectorsOf station).All Connector.Bounded := by
  unfold Database.connectorsOf
  cases hs : db.connectors.get? station with
  | none => exact .empty
  | some t => exact h.connectors station t hs

theorem putChargePoint {cp : ChargePoint} (hcp : cp.Bounded) : (db.putChargePoint cp).Bounded :=
  ⟨h.chargePoints.insert cp.id hcp, h.connectors, h.transactions, h.tags⟩

theorem putConnector (station : String) {c : Connector} (hc : c.Bounded) :
    (db.putConnector station c).Bounded :=
  ⟨h.chargePoints, h.connectors.insert station ((h.connectorsOf station).insert c.id hc),
    h.transactions, h.tags⟩

theorem putTransaction {t : Transaction} (ht : t.Bounded) : (db.putTransaction t).Bounded :=
  ⟨h.chargePoints, h.connectors, h.transactions.insert t.id ht, h.tags⟩

theorem putTag {tag : UserTag} (htag : tag.Bounded) : (db.putTag tag).Bounded :=
  ⟨h.chargePoints, h.connectors, h.transactions, h.tags.insert tag.idTag htag⟩

end Database.Bounded

theorem Storage.eq_ok_of_attempt {α : Type} {s : Storage} {operation : StorageOperation}
    {result : Except Error α} {a : α} (h : s.attempt operation result = .ok a) :
    result = .ok a := by
  unfold attempt at h
  split at h
  · cases h
  · exact h

namespace Database.Bounded

variable {storage : Storage} (h : storage.database.Bounded)
include h

theorem transaction? {id : Int32} {t : Transaction} (ht : storage.transaction? id = .ok (some t)) :
    t.Bounded :=
  h.transactions id t (Except.ok.inj (Storage.eq_ok_of_attempt ht))

theorem of_mem_chargePoints {cps : List ChargePoint} (hcps : storage.chargePoints = .ok cps) :
    ∀ cp ∈ cps, cp.Bounded := by
  obtain rfl := Except.ok.inj (Storage.eq_ok_of_attempt hcps)
  exact fun cp hcp => h.chargePoints.of_mem_values hcp

theorem of_mem_connectors {station : String} {cs : List Connector}
    (hcs : storage.connectors station = .ok cs) : ∀ c ∈ cs, c.Bounded := by
  obtain rfl := Except.ok.inj (Storage.eq_ok_of_attempt hcs)
  exact fun c hc => (h.connectorsOf station).of_mem_values hc

end Database.Bounded

namespace Ledger

namespace Bounded

variable {l : Ledger} (h : l.Bounded)
include h

theorem setRegistry {r : Registry} (hr : r.Bounded) : (l.setRegistry r).Bounded := ⟨hr, h.database⟩

theorem note (n : Notice) : (l.note n).Bounded := ⟨h.registry, h.database⟩

theorem publish (e : Event) : (l.publish e).Bounded := ⟨h.registry, h.database⟩

theorem order (settings : Settings) (o : WatchOrder) : (l.order settings o).Bounded := by
  unfold Ledger.order
  split <;> exact ⟨h.registry, h.database⟩

theorem write {operation : StorageOperation} {result : Except Error Database}
    {failed : Error → Notice} (hr : ∀ db, result = .ok db → db.Bounded) :
    (l.write (l.storage.write operation result) failed).Bounded := by
  unfold Ledger.write Storage.write Storage.attempt
  split
  · next storage hs =>
    split at hs
    · cases hs
    · obtain ⟨db, hdb, rfl⟩ := map_eq_ok_iff.1 hs
      exact ⟨h.registry, hr db hdb⟩
  · exact h.note _

theorem writeIf {operation : StorageOperation} {p : Prop} [Decidable p] {e : Error} {db : Database}
    {failed : Error → Notice} (hdb : db.Bounded) :
    (l.write (l.storage.write operation (if p then .ok db else .error e)) failed).Bounded := by
  refine h.write fun db' hdb' => ?_
  split at hdb'
  · exact Except.ok.inj hdb' ▸ hdb
  · cases hdb'

theorem writeUnless {operation : StorageOperation} {p : Prop} [Decidable p] {e : Error}
    {db : Database} {failed : Error → Notice} (hdb : db.Bounded) :
    (l.write (l.storage.write operation (if p then .error e else .ok db)) failed).Bounded := by
  refine h.write fun db' hdb' => ?_
  split at hdb'
  · cases hdb'
  · exact Except.ok.inj hdb' ▸ hdb

theorem writeAlways {operation : StorageOperation} {db : Database} {failed : Error → Notice}
    (hdb : db.Bounded) : (l.write (l.storage.write operation (.ok db)) failed).Bounded :=
  h.write fun _ hdb' => Except.ok.inj hdb' ▸ hdb

theorem writeConnector (known : Bool) (station : String) {c : Connector} (hc : c.Bounded)
    {failed : Error → Notice} :
    (l.write (if known then l.storage.updateConnector station c
      else l.storage.addConnector station c) failed).Bounded := by
  split <;> exact h.writeAlways (h.database.putConnector station hc)

theorem saveChargePoint {cp : ChargePoint} (hcp : cp.Bounded) : (l.saveChargePoint cp).Bounded :=
  h.writeIf (h.database.putChargePoint hcp)

theorem release (settings : Settings) (id : Int32) : (l.release settings id).Bounded :=
  (h.setRegistry (h.registry.removeTransaction id)).order settings _

end Bounded

section Answers

variable {settings : Settings} {l : Ledger} (now : Timestamp) (station : String) (h : l.Bounded)
include h

theorem bounded_enroll : (l.enroll station).Bounded := by
  have hnew := ChargePoint.bounded_new station
  have hwritten : (l.write (l.storage.addChargePoint { id := station })
      (.notPersisted "add_charge_point" station)).Bounded :=
    h.writeUnless (h.database.putChargePoint hnew)
  exact hwritten.setRegistry (hwritten.registry.register hnew)

theorem bounded_identify {cp : ChargePoint} (hcp : cp.Bounded) {r : Request.BootNotification}
    (hr : Request.BootNotification.schema.check r = .ok ()) :
    (l.identify now station cp r).Bounded := by
  unfold identify
  dsimp only
  have hseen := (hcp.identify hr).touch now
  generalize cp.identify r.chargePointVendor r.chargePointModel r.chargePointSerialNumber
    r.firmwareVersion = named at hseen ⊢
  have hset := h.setRegistry (h.registry.setChargePoint hseen)
  have hsaved : (if named = cp then l.setRegistry (l.registry.setChargePoint (named.touch now))
      else (l.setRegistry (l.registry.setChargePoint (named.touch now))).saveChargePoint
        (named.touch now)).Bounded := by
    split
    · exact hset
    · exact hset.saveChargePoint hseen
  cases cp.enabled with
  | true => exact hsaved
  | false => exact hsaved.note (.disabledStation station)

theorem bounded_boot {r : Request.BootNotification}
    (hr : Request.BootNotification.schema.check r = .ok ()) :
    (l.boot settings now station r).2.Bounded := by
  unfold boot
  generalize hm : (if settings.autoRegisterChargePoints && !l.registry.knows station then
    l.enroll station else l) = m
  have henroll : m.Bounded := by
    rw [← hm]
    split
    · exact bounded_enroll station h
    · exact h
  cases hcp : m.registry.chargePoint? station with
  | none =>
    simp only [hcp]
    exact henroll.note _
  | some cp =>
    simp only [hcp]
    exact bounded_identify now station henroll (henroll.registry.chargePoint? hcp) hr

theorem bounded_resolveTag (settings : Settings) {idTag : String} (ht : idTag.length ≤ 20) :
    (l.resolveTag settings idTag).2.Bounded := by
  unfold resolveTag
  split
  · exact h
  · next hne =>
    split
    · exact h.note _
    · exact h
    · split
      · exact h.writeAlways (h.database.putTag (UserTag.bounded_onFirstUse (by simpa using hne) ht))
      · exact h

theorem bounded_authorize {r : Request.Authorize}
    (hr : Request.Authorize.schema.check r = .ok ()) :
    (l.authorize settings station r).2.Bounded := by
  have ht : r.idTag.length ≤ 20 := by
    simpa [Schema.check_eq_ok_iff, Request.Authorize.schema] using hr
  have hresolved := bounded_resolveTag h settings ht
  unfold authorize authorizationStatus
  generalize l.resolveTag settings r.idTag = resolved at hresolved
  obtain ⟨tag, m⟩ := resolved
  cases l.registry.chargePoint? station with
  | none => exact h.publish _
  | some cp => cases tag <;> exact hresolved.publish _

theorem bounded_heartbeat : (l.heartbeat now station).2.Bounded := by
  unfold heartbeat
  split
  · next cp hcp =>
    exact h.setRegistry (h.registry.setChargePoint ((h.registry.chargePoint? hcp).touch now))
  · exact h

theorem bounded_amend (action : Action) {change : ChargePoint → ChargePoint}
    (hc : ∀ cp : ChargePoint, cp.Bounded → (change cp).Bounded) :
    (l.amend station action change).Bounded := by
  unfold amend
  split
  · next cp hcp =>
    have hnew := hc cp (h.registry.chargePoint? hcp)
    exact (h.setRegistry (h.registry.setChargePoint hnew)).saveChargePoint hnew
  · exact h.note _

theorem bounded_provideConnector {id : UInt32} (hid : id ≠ 0) :
    (l.provideConnector station id).1.Bounded ∧ (l.provideConnector station id).2.Bounded := by
  unfold provideConnector
  split
  · next c hc => exact ⟨h.registry.connector? hc, h⟩
  · have hnew := Connector.bounded_new hid
    have hset := h.setRegistry (h.registry.setConnector station hnew)
    exact ⟨hnew, hset.writeAlways (hset.database.putConnector station hnew)⟩

theorem bounded_openTransaction {r : Request.StartTransaction}
    (hr : r.connectorId ≠ 0 ∧ r.idTag.length ≤ 20) (tag : Option UserTag) :
    (l.openTransaction station r tag).2.Bounded := by
  have hnew : (newTransaction station l.registry.nextId r tag).Bounded := ⟨hr.1, hr.2⟩
  have hcounted : ({ l with registry := l.registry.allocate.2 } : Ledger).Bounded :=
    ⟨⟨h.registry.stations, h.registry.transactions⟩, h.database⟩
  have hwritten : (({ l with registry := l.registry.allocate.2 } : Ledger).write
      (l.storage.addTransaction (newTransaction station l.registry.nextId r tag))
      (.notPersisted "add_transaction" station)).Bounded :=
    hcounted.writeUnless (h.database.putTransaction hnew)
  exact hwritten.setRegistry (hwritten.registry.putTransaction hnew)

theorem bounded_link (owner : String) {c : Connector} (hc : c.Bounded) (transaction : Int32) :
    (l.link owner c transaction).Bounded := by
  have hnew := hc.relink transaction c.limit
  have hset := h.setRegistry (h.registry.setConnector owner hnew)
  exact hset.writeAlways (hset.database.putConnector owner hnew)

theorem bounded_announce (t : Transaction) : (l.announce settings t).Bounded :=
  (h.publish _).order settings _

theorem bounded_occupy {c : Connector} (hc : c.Bounded) {r : Request.StartTransaction}
    (hr : r.connectorId ≠ 0 ∧ r.idTag.length ≤ 20) (tag : Option UserTag) :
    (l.occupy settings station c r tag).2.Bounded := by
  have hopened := bounded_openTransaction station h hr tag
  unfold occupy
  generalize l.openTransaction station r tag = opened at hopened
  obtain ⟨t, m⟩ := opened
  have hlinked := bounded_link hopened station hc t.id
  dsimp only
  split
  · exact bounded_announce ((hlinked.note _).release settings _) t
  · exact bounded_announce hlinked t

theorem bounded_start {r : Request.StartTransaction}
    (hr : Request.StartTransaction.schema.check r = .ok ()) :
    (l.start settings station r).2.Bounded := by
  replace hr : r.connectorId ≠ 0 ∧ r.idTag.length ≤ 20 := by
    simpa [Schema.check_eq_ok_iff, Request.StartTransaction.schema] using hr
  have hresolved := bounded_resolveTag h settings hr.2
  unfold start
  generalize l.resolveTag settings r.idTag = resolved at hresolved
  obtain ⟨tag, m⟩ := resolved
  obtain ⟨hc, hprovided⟩ := bounded_provideConnector station hresolved hr.1
  dsimp only
  split
  · generalize m.provideConnector station r.connectorId = provided at hc hprovided
    obtain ⟨c, m'⟩ := provided
    dsimp only
    split
    · split
      · exact hprovided.note _
      · exact bounded_occupy station (hprovided.note _) hc hr tag
    · exact bounded_occupy station hprovided hc hr tag
  · exact bounded_announce (bounded_openTransaction station (hresolved.note _) hr tag) _

theorem bounded_findTransaction (id : Int32) :
    (∀ t ∈ (l.findTransaction id).1, t.Bounded) ∧ (l.findTransaction id).2.Bounded := by
  unfold findTransaction
  split
  · next t ht =>
    exact ⟨fun t' ht' => Option.some.inj ht' ▸ h.registry.transactions id t ht, h⟩
  · split
    · next t ht =>
      have hfound := h.database.transaction? ht
      exact ⟨fun t' ht' => Option.some.inj ht' ▸ hfound,
        h.setRegistry (h.registry.putTransaction hfound)⟩
    · exact ⟨fun _ ht => (nomatch ht), h⟩
    · exact ⟨fun _ ht => (nomatch ht), h.note _⟩

theorem bounded_free (t : Transaction) : (l.free t).Bounded := by
  unfold free
  split
  · next c hc =>
    split
    · exact bounded_link h t.chargePoint (h.registry.connector? hc) noTransaction
    · exact h
  · exact h

theorem bounded_close {t : Transaction} (ht : t.Bounded) (r : Request.StopTransaction) :
    (l.close settings now station t r).Bounded := by
  have hclosed := ht.closed r
  unfold close
  dsimp only
  generalize hm : (if t.chargePoint = station then l
    else l.note (.foreignStop station t.chargePoint t.id)) = m
  have hnoted : m.Bounded := by
    rw [← hm]
    split
    · exact h
    · exact h.note _
  have hset := hnoted.setRegistry (hnoted.registry.putTransaction hclosed)
  have hwritten : (({ m with registry := m.registry.putTransaction (closed t r) } : Ledger).write
      (m.storage.updateTransaction (closed t r))
      (.notPersisted "update_transaction" station)).Bounded :=
    hset.writeIf (hset.database.putTransaction hclosed)
  have hfreed := bounded_free hwritten (closed t r)
  exact ((hfreed.setRegistry (hfreed.registry.removeTransaction _)).publish _).order settings _

theorem bounded_stop (r : Request.StopTransaction) :
    (l.stop settings now station r).2.Bounded := by
  obtain ⟨ht, hfound⟩ := bounded_findTransaction h r.transactionId
  unfold stop
  generalize l.findTransaction r.transactionId = found at ht hfound
  obtain ⟨t?, m⟩ := found
  cases t? with
  | none => exact hfound.note _
  | some t =>
    dsimp only
    split
    · exact (hfound.note _).setRegistry (hfound.registry.removeTransaction _)
    · exact bounded_close now station hfound (ht t rfl) r

theorem bounded_meterValues (r : Request.MeterValues) :
    (l.meterValues station r).2.Bounded := by
  have hstored {m : Ledger} (hm : m.Bounded) :
      (if (samples station r).isEmpty then m
        else m.write (m.storage.addSamples (samples station r))
          (.notPersisted "add_meter_samples" station)).Bounded := by
    split
    · exact hm
    · obtain ⟨kept, hkept⟩ := Database.foldl_addSample (samples station r) m.database
      refine hm.writeAlways ?_
      rw [hkept]
      exact ⟨hm.database.chargePoints, hm.database.connectors, hm.database.transactions,
        hm.database.tags⟩
  have hnoted (t : Int32) : (if l.knowsTransaction t then l
      else l.note (.unknownTransaction .meterValues station t)).Bounded := by
    split
    · exact h
    · exact h.note _
  unfold meterValues
  dsimp only
  cases r.transactionId with
  | none => exact hstored h
  | some t => exact hstored (hnoted t)

/-- Connector 0 is not put on record: a report of it is one of the charge point as a whole. -/
theorem bounded_reportConnector {r : Request.StatusNotification} (hid : r.connectorId ≠ 0)
    (hr : Request.StatusNotification.schema.check r = .ok ()) :
    (l.reportConnector settings station r).Bounded := by
  obtain ⟨hinfo, hvendor, hcode⟩ := by
    simpa [Schema.check_eq_ok_iff, Request.StatusNotification.schema] using hr
  have hold :
      ((l.registry.connector? station r.connectorId).getD { id := r.connectorId }).id ≠ 0 := by
    cases hc : l.registry.connector? station r.connectorId with
    | none => exact hid
    | some c => exact (h.registry.connector? hc).id
  unfold reportConnector
  dsimp only
  generalize hreported : Connector.report _ r.status = reported
  have hkept : reported.1.id ≠ 0 := by
    rw [← hreported]
    unfold Connector.report
    split <;> exact hold
  have hnew : Connector.Bounded
      { reported.1 with
        errorCode := r.errorCode.name
        info := r.info
        vendorId := r.vendorId
        vendorErrorCode := r.vendorErrorCode } := ⟨hkept, hinfo, hcode, hvendor⟩
  have hset := h.setRegistry (h.registry.setConnector station hnew)
  cases reported.2 with
  | none => exact hset.writeConnector _ station hnew
  | some t => exact ((hset.note _).release settings t).writeConnector _ station hnew

theorem bounded_reportStatus {r : Request.StatusNotification}
    (hr : Request.StatusNotification.schema.check r = .ok ()) :
    (l.reportStatus settings now station r).2.Bounded := by
  unfold reportStatus
  dsimp only
  split
  · refine (bounded_amend station h _ fun cp hcp => ?_).publish _
    exact ⟨hcp.vendor, hcp.model, hcp.serialNumber, hcp.firmwareVersion⟩
  · next hid => exact (bounded_reportConnector station h (fun he => hid (.inl he)) hr).publish _

theorem bounded_answer {r : Request} (hr : r.check = .ok ()) :
    (l.answer settings now station r).2.Bounded := by
  cases r with
  | bootNotification r => exact bounded_boot now station h hr
  | authorize r => exact bounded_authorize station h hr
  | heartbeat _ => exact bounded_heartbeat now station h
  | startTransaction r => exact bounded_start station h hr
  | stopTransaction r => exact bounded_stop now station h r
  | meterValues r => exact bounded_meterValues station h r
  | statusNotification r => exact bounded_reportStatus now station h hr
  | dataTransfer _ => exact h
  | diagnosticsStatusNotification r | firmwareStatusNotification r =>
    refine bounded_amend station h _ fun cp hcp => ?_
    exact ⟨hcp.vendor, hcp.model, hcp.serialNumber, hcp.firmwareVersion⟩

end Answers

section Load

variable {storage : Storage} (hdb : storage.database.Bounded)
include hdb

theorem bounded_loadConnector {station : String} {c : Connector} (hc : c.Bounded) {l l' : Ledger}
    (hload : load.loadConnector storage station l c = .ok l') (h : l.Bounded) : l'.Bounded := by
  have hset {m : Ledger} (hm : m.Bounded) :
      Bounded { m with registry := m.registry.setConnector station c } :=
    hm.setRegistry (hm.registry.setConnector station hc)
  simp only [load.loadConnector, bind, Except.bind] at hload
  split at hload
  · cases ht : storage.transaction? c.transaction with
    | error e =>
      rw [ht] at hload
      cases hload
    | ok t? =>
      rw [ht] at hload
      cases t? with
      | none => exact Except.ok.inj hload ▸ hset (h.note _)
      | some t =>
        have hput := h.setRegistry (h.registry.putTransaction (hdb.transaction? ht))
        dsimp only at hload
        split at hload
        · exact Except.ok.inj hload ▸ hset (h.note _)
        · exact Except.ok.inj hload ▸ hset hput
  · exact Except.ok.inj hload ▸ hset h

theorem bounded_loadStation {cp : ChargePoint} (hcp : cp.Bounded) {l l' : Ledger}
    (hload : load.loadStation storage l cp = .ok l') (h : l.Bounded) : l'.Bounded := by
  obtain ⟨cs, hcs, hfold⟩ := bind_eq_ok.1 hload
  have hc := hdb.of_mem_connectors hcs
  exact foldlM_preserve (fun c hmem _ _ => bounded_loadConnector hdb (hc c hmem)) hfold
    (h.setRegistry (h.registry.register hcp))

theorem bounded_load {l : Ledger} (hload : load storage = .ok l) : l.Bounded := by
  obtain ⟨last, -, hload⟩ := bind_eq_ok.1 hload
  obtain ⟨cps, hcps, hfold⟩ := bind_eq_ok.1 hload
  have hcp := hdb.of_mem_chargePoints hcps
  exact foldlM_preserve (fun cp hmem _ _ => bounded_loadStation hdb (hcp cp hmem)) hfold
    ⟨⟨.empty, .empty⟩, hdb⟩

end Load

end Ledger

end CentralSystem
