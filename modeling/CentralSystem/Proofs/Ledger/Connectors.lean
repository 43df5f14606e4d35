import CentralSystem.Proofs.Ledger.Answer

namespace CentralSystem

def Request.sharesPower : Request → Bool
  | .startTransaction _ | .stopTransaction _ | .statusNotification _ => true
  | _ => false

namespace Registry

variable {r : Registry}

theorem connector?_setConnector_of_ne {owner s : String} (h : s ≠ owner) (c : Connector)
    (i : UInt32) : (r.setConnector owner c).connector? s i = r.connector? s i := by
  simp [setConnector, connector?, Table.get?_modify, h]

end Registry

namespace Ledger

open Registry

variable {settings : Settings} {l : Ledger} (now : Timestamp) (station : String)

@[simp] theorem registry_note (n : Notice) : (l.note n).registry = l.registry := rfl

@[simp] theorem registry_write (result : Except Error Storage) (failed : Error → Notice) :
    (l.write result failed).registry = l.registry := by
  unfold write
  split <;> rfl

@[simp] theorem registry_link (owner : String) (c : Connector) (transaction : Int32) :
    (l.link owner c transaction).registry =
      l.registry.setConnector owner { c with transaction := transaction } :=
  registry_write ..

@[simp] theorem registry_release (transaction : Int32) :
    (l.release settings transaction).registry = l.registry.removeTransaction transaction :=
  registry_order _

theorem registry_resolveTag (settings : Settings) (l : Ledger) (idTag : String) :
    (l.resolveTag settings idTag).2.registry = l.registry := by
  unfold resolveTag
  split
  · rfl
  · split
    · rfl
    · rfl
    · split
      · exact registry_write ..
      · rfl

theorem registry_saveChargePoint (cp : ChargePoint) :
    (l.saveChargePoint cp).registry = l.registry := registry_write ..

theorem connector?_amend (action : Action) (change : ChargePoint → ChargePoint) (s : String)
    (i : UInt32) :
    (l.amend station action change).registry.connector? s i = l.registry.connector? s i := by
  unfold amend
  split
  · rw [registry_saveChargePoint]
    exact connector?_setChargePoint _ s i
  · rfl

theorem connector?_boot (r : Request.BootNotification) (s : String) (i : UInt32) :
    (l.boot settings now station r).2.registry.connector? s i = l.registry.connector? s i := by
  have henroll : (if settings.autoRegisterChargePoints && !l.registry.knows station then
      l.enroll station else l).registry.connector? s i = l.registry.connector? s i := by
    split
    · rw [enroll, connector?_register, registry_write]
    · rfl
  unfold boot
  dsimp only
  split
  · refine Eq.trans ?_ henroll
    generalize (if settings.autoRegisterChargePoints && !l.registry.knows station then
      l.enroll station else l) = m
    unfold identify
    dsimp only
    split <;> split
    all_goals
      simp only [registry_note, registry_saveChargePoint]
      exact connector?_setChargePoint _ s i
  · exact henroll

theorem connector?_authorize (r : Request.Authorize) (s : String) (i : UInt32) :
    (l.authorize settings station r).2.registry.connector? s i = l.registry.connector? s i := by
  have hr : (l.authorizationStatus settings station r.idTag).2.registry = l.registry := by
    have ht := registry_resolveTag settings l r.idTag
    unfold authorizationStatus
    split
    · rfl
    · split
      all_goals
        next he =>
        rw [he] at ht
        exact ht
  exact congrArg (·.connector? s i) hr

theorem connector?_meterValues (r : Request.MeterValues) (s : String) (i : UInt32) :
    (l.meterValues station r).2.registry.connector? s i = l.registry.connector? s i := by
  unfold meterValues
  dsimp only
  have hm (m : Ledger) (hr : m.registry = l.registry) : (if (samples station r).isEmpty then m
      else m.write (m.storage.addSamples (samples station r))
        (.notPersisted "add_meter_samples" station)).registry = l.registry := by
    split
    · exact hr
    · exact (registry_write ..).trans hr
  refine congrArg (·.connector? s i) (hm _ ?_)
  split
  · split <;> rfl
  · rfl

theorem connector?_heartbeat (s : String) (i : UInt32) :
    (l.heartbeat now station).2.registry.connector? s i = l.registry.connector? s i := by
  unfold heartbeat
  dsimp only
  split
  · exact connector?_setChargePoint _ s i
  · rfl

theorem connector?_answer {r : Request} (h : r.sharesPower = false) (s : String) (i : UInt32) :
    (l.answer settings now station r).2.registry.connector? s i = l.registry.connector? s i := by
  cases r with
  | bootNotification r => exact connector?_boot now station r s i
  | authorize r => exact connector?_authorize station r s i
  | heartbeat _ => exact connector?_heartbeat now station s i
  | meterValues r => exact connector?_meterValues station r s i
  | dataTransfer _ => rfl
  | diagnosticsStatusNotification r => exact connector?_amend station _ _ s i
  | firmwareStatusNotification r => exact connector?_amend station _ _ s i
  | startTransaction r => cases h
  | stopTransaction r => cases h
  | statusNotification r => cases h

section Elsewhere

variable {s : String} (hs : s ≠ station) (i : UInt32)
include hs

theorem connector?_occupy_of_ne (c : Connector) (r : Request.StartTransaction)
    (tag : Option UserTag) :
    (l.occupy settings station c r tag).2.registry.connector? s i = l.registry.connector? s i := by
  have hopen : (l.openTransaction station r tag).2.registry.connector? s i =
      l.registry.connector? s i := by
    simp only [openTransaction, registry_write]
    rfl
  have hlinked := (connector?_setConnector_of_ne (r := (l.openTransaction station r tag).2.registry)
    hs { c with transaction := (l.openTransaction station r tag).1.id } i).trans hopen
  simp only [occupy, announce, registry_order, registry_publish]
  split
  · simp only [registry_release, registry_note, registry_link]
    exact hlinked
  · rw [registry_link]
    exact hlinked

theorem connector?_start_of_ne (r : Request.StartTransaction) :
    (l.start settings station r).2.registry.connector? s i = l.registry.connector? s i := by
  have ht := registry_resolveTag settings l r.idTag
  unfold start
  generalize l.resolveTag settings r.idTag = resolved at ht
  obtain ⟨tag, l₁⟩ := resolved
  dsimp only at ht ⊢
  split
  · have hp : (l₁.provideConnector station r.connectorId).2.registry.connector? s i =
        l.registry.connector? s i := by
      rw [← ht, provideConnector]
      split
      · rfl
      · rw [registry_write]
        exact connector?_setConnector_of_ne hs _ i
    generalize l₁.provideConnector station r.connectorId = provided at hp
    obtain ⟨c, l₂⟩ := provided
    dsimp only at hp ⊢
    split
    · split
      · exact hp
      · exact (connector?_occupy_of_ne station hs i c r tag).trans hp
    · exact (connector?_occupy_of_ne station hs i c r tag).trans hp
  · simp only [announce, registry_order, registry_publish, openTransaction, registry_write]
    rw [← ht]
    rfl

theorem connector?_reportStatus_of_ne (r : Request.StatusNotification) :
    (l.reportStatus settings now station r).2.registry.connector? s i =
      l.registry.connector? s i := by
  simp only [reportStatus, registry_publish]
  split
  · exact connector?_amend station _ _ s i
  · simp only [reportConnector, registry_write]
    split
    · simp only [registry_release, registry_note]
      exact connector?_setConnector_of_ne hs _ i
    · exact connector?_setConnector_of_ne hs _ i

omit hs in
theorem connector?_free_of_ne {t : Transaction} (hs : s ≠ t.chargePoint) :
    (l.free t).registry.connector? s i = l.registry.connector? s i := by
  unfold free
  split
  · split
    · rw [registry_link]
      exact connector?_setConnector_of_ne hs _ i
    · rfl
  · rfl

omit hs in
theorem connector?_close_of_ne {t : Transaction} (hs : s ≠ t.chargePoint)
    (r : Request.StopTransaction) :
    (l.close settings now station t r).registry.connector? s i = l.registry.connector? s i := by
  have hs' : s ≠ (closed t r).chargePoint := by
    simp only [closed, Transaction.finish]
    split <;> exact hs
  simp only [close, registry_order, registry_publish]
  refine (connector?_free_of_ne i hs').trans ?_
  rw [registry_write]
  split <;> rfl

theorem connector?_stop_of_ne (hw : l.storage.broken = []) (r : Request.StopTransaction)
    (hown : ∀ t, l.record? r.transactionId = some t → t.isFinished = false →
      t.chargePoint = station) :
    (l.stop settings now station r).2.registry.connector? s i = l.registry.connector? s i := by
  obtain ⟨hfst, hsnd⟩ := findTransaction_eq hw r.transactionId
  have hsame : (l.findTransaction r.transactionId).2.registry.connector? s i =
      l.registry.connector? s i := by
    obtain he | ⟨t, -, he⟩ := hsnd
    · rw [he]
    · rw [he]
      rfl
  unfold stop
  generalize l.findTransaction r.transactionId = found at hfst hsame
  obtain ⟨t?, m⟩ := found
  dsimp only at hfst hsame ⊢
  cases t? with
  | none => exact hsame
  | some t =>
    dsimp only
    split
    · exact hsame
    · next ho =>
      have hst := hown t hfst.symm (by simpa using ho)
      exact (connector?_close_of_ne now station i (hst ▸ hs) r).trans hsame

/-- The answer to a request leaves the connectors of other charge points alone, if a stop is about a
transaction of the charge point that asks for it. -/
theorem connector?_answer_of_ne (hw : l.storage.broken = []) (r : Request)
    (hown : ∀ stop, r = .stopTransaction stop → ∀ t, l.record? stop.transactionId = some t →
      t.isFinished = false → t.chargePoint = station) :
    (l.answer settings now station r).2.registry.connector? s i = l.registry.connector? s i := by
  cases r with
  | startTransaction r => exact connector?_start_of_ne station hs i r
  | stopTransaction r => exact connector?_stop_of_ne now station hs i hw r (hown r rfl)
  | statusNotification r => exact connector?_reportStatus_of_ne now station hs i r
  | _ => exact connector?_answer now station rfl s i

end Elsewhere

end Ledger

end CentralSystem
