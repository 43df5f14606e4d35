import CentralSystem.Proofs.Ledger.Change

namespace CentralSystem.Ledger

variable {settings : Settings} {l : Ledger}

@[simp] theorem registry_quiet : l.quiet.registry = l.registry := rfl

@[simp] theorem storage_quiet : l.quiet.storage = l.storage := rfl

@[simp] theorem quiet_note (n : Notice) : (l.note n).quiet = l.quiet := rfl

@[simp] theorem quiet_publish (e : Event) : (l.publish e).quiet = l.quiet.publish e := rfl

@[simp] theorem quiet_order (o : WatchOrder) :
    (l.order settings o).quiet = l.quiet.order settings o := by
  unfold order
  split <;> rfl

@[simp] theorem quiet_release (settings : Settings) (l : Ledger) (id : Int32) :
    (l.release settings id).quiet = (l.quiet.forget id).order settings (.unregister id) := by
  rw [release, quiet_order]
  rfl

theorem registry_of_quiet {l' : Ledger} (h : l'.quiet = l) : l'.registry = l.registry := by
  rw [← h, registry_quiet]

theorem storage_of_quiet {l' : Ledger} (h : l'.quiet = l) : l'.storage = l.storage := by
  rw [← h, storage_quiet]

section Whole

variable (hw : l.storage.broken = []) (failed : Error → Notice)
include hw

theorem quiet_addChargePoint (cp : ChargePoint) :
    (l.write (l.storage.addChargePoint cp) failed).quiet =
      l.quiet.setDatabase (l.database.addChargePoint cp) := by
  simp only [Storage.addChargePoint, Storage.write, Storage.attempt_of_broken_eq_nil hw,
    Database.addChargePoint]
  split <;> rfl

theorem quiet_saveChargePoint (cp : ChargePoint) :
    (l.saveChargePoint cp).quiet = l.quiet.setDatabase (l.database.updateChargePoint cp) := by
  simp only [saveChargePoint, Storage.updateChargePoint, Storage.write,
    Storage.attempt_of_broken_eq_nil hw, Database.updateChargePoint]
  split <;> rfl

theorem quiet_addConnector (station : String) (c : Connector) :
    (l.write (l.storage.addConnector station c) failed).quiet =
      l.quiet.setDatabase (l.database.putConnector station c) := by
  simp only [Storage.addConnector, Storage.write, Storage.attempt_of_broken_eq_nil hw]
  rfl

theorem quiet_updateConnector (station : String) (c : Connector) :
    (l.write (l.storage.updateConnector station c) failed).quiet =
      l.quiet.setDatabase (l.database.putConnector station c) := by
  simp only [Storage.updateConnector, Storage.write, Storage.attempt_of_broken_eq_nil hw]
  rfl

theorem quiet_updateConnectorLimit (station : String) (id : UInt32) (limit : Int32) :
    (l.write (l.storage.updateConnectorLimit station id limit) failed).quiet =
      l.quiet.setDatabase (l.database.limitConnector station id limit) := by
  simp only [Storage.updateConnectorLimit, Storage.write, Storage.attempt_of_broken_eq_nil hw]
  rfl

theorem quiet_addTransaction (t : Transaction) :
    (l.write (l.storage.addTransaction t) failed).quiet =
      l.quiet.setDatabase (l.database.addTransaction t) := by
  simp only [Storage.addTransaction, Storage.write, Storage.attempt_of_broken_eq_nil hw,
    Database.addTransaction]
  split <;> rfl

theorem quiet_updateTransaction (t : Transaction) :
    (l.write (l.storage.updateTransaction t) failed).quiet =
      l.quiet.setDatabase (l.database.updateTransaction t) := by
  simp only [Storage.updateTransaction, Storage.write, Storage.attempt_of_broken_eq_nil hw,
    Database.updateTransaction]
  split <;> rfl

theorem quiet_addTag (tag : UserTag) :
    (l.write (l.storage.addTag tag) failed).quiet =
      l.quiet.setDatabase (l.database.putTag tag) := by
  simp only [Storage.addTag, Storage.write, Storage.attempt_of_broken_eq_nil hw]
  rfl

theorem quiet_addSamples (samples : List MeterSample) :
    (l.write (l.storage.addSamples samples) failed).quiet =
      l.quiet.setDatabase (samples.foldl Database.addSample l.database) := by
  simp only [Storage.addSamples, Storage.write, Storage.attempt_of_broken_eq_nil hw]
  rfl

theorem quiet_link (owner : String) (c : Connector) (transaction : Int32) :
    (l.link owner c transaction).quiet =
      l.quiet.putConnector owner { c with transaction := transaction } := by
  have hs := quiet_updateConnector (l := l.setRegistry (l.registry.setConnector owner
    { c with transaction := transaction })) hw (.notPersisted "update_connector" owner) owner
    { c with transaction := transaction }
  exact hs

theorem quiet_openTransaction (station : String) (r : Request.StartTransaction)
    (tag : Option UserTag) :
    (l.openTransaction station r tag).2.quiet =
      l.quiet.enter (newTransaction station l.registry.nextId r tag) := by
  have hs := quiet_addTransaction (l := l.setRegistry l.registry.allocate.2) hw
    (.notPersisted "add_transaction" station) (newTransaction station l.registry.nextId r tag)
  have hr := registry_of_quiet hs
  simp only [openTransaction, Registry.allocate, setRegistry] at hs hr ⊢
  simp only [quiet, enter, setRegistry, setDatabase] at hs ⊢
  simp_all

end Whole

end CentralSystem.Ledger
