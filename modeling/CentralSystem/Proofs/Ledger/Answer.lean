import CentralSystem.Proofs.Ledger.Write

namespace CentralSystem

def Response.opened : Response → Nat
  | .startTransaction info _ => if info.status = .accepted then 1 else 0
  | _ => 0

theorem Change.broken {settings : Settings} {sharing : Bool} {n : Nat} {l l' : Ledger}
    (h : Change settings sharing n l l') : l'.storage.broken = l.storage.broken := by
  cases h <;> simp

theorem Changes.broken {settings : Settings} {sharing : Bool} {n : Nat} {l l' : Ledger}
    (h : Changes settings sharing n l l') : l'.storage.broken = l.storage.broken :=
  h.preserve (P := fun m => m.storage.broken = l.storage.broken)
    (fun hc hm => hc.broken.trans hm) rfl

namespace Ledger

variable {settings : Settings} {sharing : Bool} {l : Ledger} (now : Timestamp) (station : String)

theorem changes_heartbeat :
    Changes settings sharing 0 l.quiet (l.heartbeat now station).2.quiet := by
  unfold heartbeat
  split
  · rename_i cp h
    exact .one (.see (l := l.quiet) now h)
  · exact .refl _

theorem stop_fst (r : Request.StopTransaction) : (l.stop settings now station r).1 =
    .stopTransaction (some (.ofStatus .accepted)) := by
  unfold stop
  split
  · rfl
  · split <;> rfl

section Whole

variable (hw : l.storage.broken = [])
include hw

theorem changes_amend (action : Action) (change : ChargePoint → ChargePoint)
    (hid : ∀ cp, (change cp).id = cp.id) (hloc : ∀ cp, (change cp).location = cp.location)
    (hsmart : ∀ cp, (change cp).smartCharging = cp.smartCharging)
    (hon : ∀ cp, (change cp).enabled = cp.enabled) :
    Changes settings sharing 0 l.quiet (l.amend station action change).quiet := by
  unfold amend
  split
  · rename_i cp h
    have hs := quiet_saveChargePoint (l := l.setRegistry (l.registry.setChargePoint (change cp))) hw
      (change cp)
    simp only [setRegistry] at hs
    rw [hs]
    exact .one (.amend (l := l.quiet) h (hid cp) (hloc cp) (hsmart cp) (hon cp))
  · exact .refl _

theorem quiet_enroll : (l.enroll station).quiet =
    (l.quiet.setRegistry (l.registry.register { id := station })).setDatabase
      (l.database.addChargePoint { id := station }) := by
  have hs := quiet_addChargePoint hw (.notPersisted "add_charge_point" station) { id := station }
  have hr := registry_of_quiet hs
  simp only [enroll, hr]
  simp only [quiet, setRegistry, setDatabase] at hs ⊢
  simp_all

theorem changes_enroll (h : l.registry.knows station = false) :
    Changes settings sharing 0 l.quiet (l.enroll station).quiet := by
  rw [quiet_enroll station hw]
  exact .one (.enroll (l := l.quiet) h)

theorem quiet_identify (cp : ChargePoint) (r : Request.BootNotification) :
    (l.identify now station cp r).quiet =
      let named := cp.identify r.chargePointVendor r.chargePointModel r.chargePointSerialNumber
        r.firmwareVersion
      if named = cp then l.quiet.setRegistry (l.registry.setChargePoint (named.touch now))
      else (l.quiet.setRegistry (l.registry.setChargePoint (named.touch now))).setDatabase
        (l.database.updateChargePoint (named.touch now)) := by
  unfold identify
  dsimp only
  generalize cp.identify r.chargePointVendor r.chargePointModel r.chargePointSerialNumber
    r.firmwareVersion = named
  have hs := quiet_saveChargePoint
    (l := l.setRegistry (l.registry.setChargePoint (named.touch now))) hw (named.touch now)
  simp only [setRegistry] at hs
  by_cases he : named = cp <;> cases cp.enabled <;> simp [he, hs] <;> rfl

theorem changes_identify {cp : ChargePoint} (h : l.registry.chargePoint? station = some cp)
    (r : Request.BootNotification) :
    Changes settings sharing 0 l.quiet (l.identify now station cp r).quiet := by
  rw [quiet_identify now station hw]
  dsimp only
  split
  · rename_i he
    rw [he]
    exact .one (.see (l := l.quiet) now h)
  · exact .one (.amend (l := l.quiet) h rfl rfl rfl rfl)

theorem changes_boot (r : Request.BootNotification) :
    Changes settings sharing 0 l.quiet (l.boot settings now station r).2.quiet := by
  unfold boot
  generalize hm : (if settings.autoRegisterChargePoints && !l.registry.knows station then
    l.enroll station else l) = m
  have henroll : Changes settings sharing 0 l.quiet m.quiet := by
    rw [← hm]
    split
    · rename_i hk
      have hunknown : l.registry.knows station = false := by simp_all
      exact changes_enroll station hw hunknown
    · exact .refl _
  have hwhole : m.storage.broken = [] := henroll.broken.trans hw
  cases hcp : m.registry.chargePoint? station with
  | none =>
    simp only [hcp]
    exact henroll
  | some cp =>
    simp only [hcp]
    exact henroll.trans (changes_identify now station hwhole hcp r)

theorem changes_resolveTag (idTag : String) :
    Changes settings sharing 0 l.quiet (l.resolveTag settings idTag).2.quiet ∧
      (l.resolveTag settings idTag).2.registry = l.registry := by
  unfold resolveTag
  split
  · exact ⟨.refl _, rfl⟩
  · rename_i hi
    simp only [Storage.tag?, Storage.attempt_of_broken_eq_nil hw]
    split
    · exact ⟨.refl _, rfl⟩
    · exact ⟨.refl _, rfl⟩
    · rename_i ht
      have hnew : l.database.tags.get? idTag = none := by simpa using ht
      split
      · rename_i hs
        have hq := quiet_addTag hw (.tagNotPersisted idTag) (.onFirstUse idTag)
        refine ⟨?_, (registry_of_quiet hq).trans rfl⟩
        rw [hq]
        exact .one (.tag (l := l.quiet) hs (by simpa using hi) hnew)
      · exact ⟨.refl _, rfl⟩

theorem changes_authorize (r : Request.Authorize) :
    Changes settings sharing 0 l.quiet (l.authorize settings station r).2.quiet := by
  have hs : Changes settings sharing 0 l.quiet
      (l.authorizationStatus settings station r.idTag).2.quiet := by
    unfold authorizationStatus
    split
    · exact .refl _
    · have ht : Changes settings sharing 0 l.quiet (l.resolveTag settings r.idTag).2.quiet :=
        (changes_resolveTag hw r.idTag).1
      split <;> simp_all
  exact hs.tail (.publish rfl)

theorem changes_provideConnector (hk : l.registry.knows station = true) (id : UInt32)
    (hid : ∀ c, l.registry.connector? station id = some c → c.id = id) :
    Changes settings sharing 0 l.quiet (l.provideConnector station id).2.quiet ∧
      (l.provideConnector station id).2.registry.connector? station id =
        some (l.provideConnector station id).1 ∧
      (l.provideConnector station id).1.id = id := by
  unfold provideConnector
  split
  · rename_i c h
    exact ⟨.refl _, h, hid c h⟩
  · rename_i h
    have hq := quiet_addConnector
      (l := l.setRegistry (l.registry.setConnector station { id := id })) hw
      (.notPersisted "add_connector" station) station { id := id }
    simp only [setRegistry] at hq
    refine ⟨?_, ?_, rfl⟩
    · rw [hq]
      exact .one (.report (l := l.quiet) (c := { id := id }) hk rfl (by simp [h]) rfl rfl)
    · rw [registry_of_quiet hq]
      exact (Registry.connector?_setConnector hk _ _ _).trans (if_pos ⟨rfl, rfl⟩)

theorem quiet_occupy (c : Connector) (r : Request.StartTransaction) (tag : Option UserTag) :
    let t := newTransaction station l.registry.nextId r tag
    let linked := (l.quiet.enter t).putConnector station { c with transaction := t.id }
    (l.occupy settings station c r tag).2.quiet =
      ((if c.isActive then
          (linked.forget c.transaction).order settings (.unregister c.transaction)
        else linked).publish (.ofStart t)).order settings
          (.register t.id ⟨t.chargePoint, t.connector⟩) := by
  intro t linked
  have ho := quiet_openTransaction hw station r tag
  have hl := quiet_link (l := (l.openTransaction station r tag).2)
    (by rw [storage_of_quiet ho]; exact hw) station c t.id
  rw [ho] at hl
  show ((if c.isActive then
      ((((l.openTransaction station r tag).2.link station c t.id).note
        (.displaced station c.id c.transaction)).release settings c.transaction)
    else (l.openTransaction station r tag).2.link station c t.id).announce settings t).quiet = _
  split <;> simp [announce, hl, linked, t]

theorem changes_occupy {c : Connector} (hc : l.registry.connector? station c.id = some c)
    (r : Request.StartTransaction) (hi : r.connectorId = c.id) (tag : Option UserTag) :
    Changes settings sharing 1 l.quiet (l.occupy settings station c r tag).2.quiet := by
  rw [quiet_occupy station hw]
  by_cases ha : c.isActive = true
  · simp only [ha, ↓reduceIte]
    exact .one (.displace (l := l.quiet) (t := newTransaction station l.registry.nextId r tag) rfl
      rfl hc hi ha)
  · simp only [ha, Bool.false_eq_true, ↓reduceIte]
    exact .one (.occupy (l := l.quiet) (t := newTransaction station l.registry.nextId r tag) rfl
      rfl hc hi (by simpa using ha))

theorem changes_enter (hk : l.registry.knows station = false) (r : Request.StartTransaction)
    (tag : Option UserTag) :
    Changes settings sharing 1 l.quiet
      ((l.openTransaction station r tag).2.announce settings
        (l.openTransaction station r tag).1).quiet := by
  have ho := quiet_openTransaction hw station r tag
  simp only [announce, quiet_order, quiet_publish, ho]
  exact .one (.enter (l := l.quiet) (t := newTransaction station l.registry.nextId r tag) rfl
    rfl hk)

theorem changes_start (hkey : ∀ i c, l.registry.connector? station i = some c → c.id = i)
    (r : Request.StartTransaction) :
    Changes settings sharing (l.start settings station r).1.opened l.quiet
      (l.start settings station r).2.quiet := by
  obtain ⟨ht, hr⟩ : Changes settings sharing 0 l.quiet
      (l.resolveTag settings r.idTag).2.quiet ∧ _ := changes_resolveTag hw r.idTag
  have hw' : (l.resolveTag settings r.idTag).2.storage.broken = [] := ht.broken.trans hw
  unfold start
  generalize l.resolveTag settings r.idTag = resolved at ht hr hw'
  obtain ⟨tag, l₁⟩ := resolved
  simp only at ht hr hw' ⊢
  cases hk : l₁.registry.knows station with
  | false =>
    simp only [Bool.false_eq_true, ↓reduceIte]
    exact ht.trans (changes_enter (l := l₁.note (.unknownStation .startTransaction station))
      station hw' hk r tag)
  | true =>
    obtain ⟨hp, hc, hid⟩ : Changes settings sharing 0 l₁.quiet
        (l₁.provideConnector station r.connectorId).2.quiet ∧ _ :=
      changes_provideConnector station hw' hk r.connectorId (hr ▸ hkey r.connectorId)
    have hw'' : (l₁.provideConnector station r.connectorId).2.storage.broken = [] :=
      hp.broken.trans hw'
    generalize l₁.provideConnector station r.connectorId = provided at hp hc hid hw''
    obtain ⟨c, l₂⟩ := provided
    simp only at hp hc hid hw'' ⊢
    rw [← hid] at hc
    simp only [↓reduceIte]
    split
    · split
      · exact ht.trans hp
      · exact (ht.trans hp).trans (changes_occupy
          (l := l₂.note (.busyConnector station c.id c.transaction)) station hw'' hc r hid.symm tag)
    · exact (ht.trans hp).trans (changes_occupy station hw'' hc r hid.symm tag)

theorem quiet_free (t : Transaction) : (l.free t).quiet = l.quiet.unlink t := by
  unfold free unlink
  cases hc : l.registry.connector? t.chargePoint t.connector with
  | none => simp [hc]
  | some c =>
    simp only [registry_quiet, hc]
    split
    · exact quiet_link hw _ _ _
    · rfl

omit hw in
theorem unlink_settle (t : Transaction) :
    ((l.setDatabase (l.database.updateTransaction t)).unlink t).forget t.id =
      (l.unlink t).settle t := by
  have hdb (db : Database) (station : String) (c : Connector) :
      (db.updateTransaction t).putConnector station c =
        (db.putConnector station c).updateTransaction t := by
    unfold Database.updateTransaction
    split <;> rename_i h
    · exact (if_pos h).symm
    · exact (if_neg h).symm
  unfold unlink
  simp only [registry_setDatabase]
  split
  · split
    · simp only [putConnector, settle, setRegistry, setDatabase, hdb]
    · rfl
  · rfl

omit hw in
/-- On its way out a transaction passes through the registry, which leaves no trace. -/
theorem unlink_settle_putTransaction {t t' : Transaction} (h : t.id = t'.id) :
    ((l.setRegistry (l.registry.putTransaction t)).unlink t').settle t' =
      (l.unlink t').settle t' := by
  have hr (r : Registry) : (r.putTransaction t).removeTransaction t'.id =
      r.removeTransaction t'.id := h ▸ Registry.removeTransaction_putTransaction t
  have hc : (l.registry.putTransaction t).connector? t'.chargePoint t'.connector =
      l.registry.connector? t'.chargePoint t'.connector := rfl
  unfold unlink
  simp only [registry_setRegistry, hc]
  split
  · split
    · exact congrArg (fun r => ((l.setRegistry r).setDatabase _)) (hr (l.registry.setConnector ..))
    · exact congrArg (fun r => ((l.setRegistry r).setDatabase _)) (hr l.registry)
  · exact congrArg (fun r => ((l.setRegistry r).setDatabase _)) (hr l.registry)

theorem quiet_close (t : Transaction) (r : Request.StopTransaction) :
    (l.close settings now station t r).quiet =
      (((l.quiet.unlink (closed t r)).settle (closed t r)).publish (.ofStop (closed t r) now)).order
        settings (.unregister (closed t r).id) := by
  unfold close
  have hm : (if t.chargePoint = station then l
      else l.note (.foreignStop station t.chargePoint t.id)).quiet = l.quiet := by
    split <;> rfl
  generalize (if t.chargePoint = station then l
    else l.note (.foreignStop station t.chargePoint t.id)) = m at hm
  generalize closed t r = t'
  have hwm : m.storage.broken = [] := by
    rw [storage_of_quiet hm]
    exact hw
  have hu := quiet_updateTransaction (l := m.setRegistry (m.registry.putTransaction t')) hwm
    (.notPersisted "update_transaction" station) t'
  have hf := quiet_free (l := (m.setRegistry (m.registry.putTransaction t')).write
    ((m.setRegistry (m.registry.putTransaction t')).storage.updateTransaction t')
    (.notPersisted "update_transaction" station)) (by rw [storage_of_quiet hu]; exact hwm) t'
  rw [hu] at hf
  rw [quiet_order, quiet_publish, ← hm, ← unlink_settle_putTransaction rfl, ← unlink_settle]
  exact congrArg (fun q : Ledger => ((q.forget t'.id).publish _).order settings _) hf

theorem findTransaction_eq (id : Int32) :
    (l.findTransaction id).1 = l.record? id ∧
      ((l.findTransaction id).2 = l ∨ ∃ t, l.record? id = some t ∧
        (l.findTransaction id).2 = l.setRegistry (l.registry.putTransaction t)) := by
  unfold findTransaction record?
  cases hm : l.registry.transactions.get? id with
  | some t => exact ⟨rfl, .inl rfl⟩
  | none =>
    simp only [Storage.transaction?, Storage.attempt_of_broken_eq_nil hw, Option.none_or]
    cases hd : l.storage.database.transactions.get? id with
    | some t => exact ⟨rfl, .inr ⟨t, rfl, rfl⟩⟩
    | none => exact ⟨rfl, .inl rfl⟩

omit hw in
theorem closed_eq {t : Transaction} (ho : t.isFinished = false) (r : Request.StopTransaction) :
    (closed t r).id = t.id ∧ (closed t r).chargePoint = t.chargePoint ∧
      (closed t r).connector = t.connector ∧ (closed t r).isFinished = true := by
  simp [closed, Transaction.finish, ho]

theorem changes_close {t : Transaction} (hr : l.record? t.id = some t) (ho : t.isFinished = false)
    (r : Request.StopTransaction) :
    Changes settings sharing 0 l.quiet (l.close settings now station t r).quiet := by
  obtain ⟨hid, hs, hi, hf⟩ := closed_eq ho r
  rw [quiet_close now station hw, unlink, hs, hi, hid]
  simp only [registry_quiet]
  split
  · rename_i c hc
    split
    · rename_i htx
      exact .one (.close (l := l.quiet) now hr ho hid hs hi hf hc htx)
    · rename_i htx
      refine .one (.closeLoose (l := l.quiet) now hr ho hid hs hi hf fun c' hc' he => htx ?_)
      have heq : c' = c := Option.some.inj (hc'.symm.trans hc)
      rwa [heq] at he
  · rename_i hc
    refine .one (.closeLoose (l := l.quiet) now hr ho hid hs hi hf fun c' hc' => ?_)
    rw [registry_quiet, hc] at hc'
    cases hc'

theorem quiet_stop (hkey : ∀ id t, l.record? id = some t → t.id = id)
    (r : Request.StopTransaction) :
    (l.stop settings now station r).2.quiet =
      match l.record? r.transactionId with
      | none => l.quiet
      | some t =>
        if t.isFinished then l.quiet.forget t.id else (l.close settings now station t r).quiet := by
  obtain ⟨hfst, hsnd⟩ := findTransaction_eq hw r.transactionId
  unfold stop
  generalize l.findTransaction r.transactionId = found at hfst hsnd
  obtain ⟨t?, m⟩ := found
  simp only at hfst hsnd ⊢
  subst hfst
  cases hrec : l.record? r.transactionId with
  | none =>
    rcases hsnd with rfl | ⟨t, ht, _⟩
    · rfl
    · rw [hrec] at ht
      cases ht
  | some t =>
    have hid := hkey _ _ hrec
    simp only
    split
    · obtain rfl | ⟨t', ht', rfl⟩ := hsnd
      · rw [← hid]
        rfl
      · obtain rfl : t = t' := Option.some.inj (hrec.symm.trans ht')
        rw [← hid]
        exact congrArg l.quiet.setRegistry (Registry.removeTransaction_putTransaction t)
    · rename_i ho
      have ho : t.isFinished = false := by simpa using ho
      have hwm : m.storage.broken = [] := by
        obtain rfl | ⟨_, _, rfl⟩ := hsnd <;> exact hw
      rw [quiet_close now station hwm, quiet_close now station hw]
      obtain rfl | ⟨t', ht', rfl⟩ := hsnd
      · rfl
      · obtain rfl : t = t' := Option.some.inj (hrec.symm.trans ht')
        have hs := unlink_settle_putTransaction (l := l.quiet) (closed_eq ho r).1.symm
        exact congrArg (fun q : Ledger => (q.publish _).order settings _) hs

theorem changes_stop (hkey : ∀ id t, l.record? id = some t → t.id = id)
    (r : Request.StopTransaction) :
    Changes settings sharing 0 l.quiet (l.stop settings now station r).2.quiet := by
  rw [quiet_stop now station hw hkey]
  cases hrec : l.record? r.transactionId with
  | none => exact .refl _
  | some t =>
    rw [← hkey _ _ hrec] at hrec
    dsimp only
    split
    · rename_i hf
      exact .one (.discard (l := l.quiet) hrec hf)
    · rename_i ho
      exact changes_close now station hw hrec (by simpa using ho) r

theorem quiet_reportConnector (r : Request.StatusNotification) :
    (l.reportConnector settings station r).quiet =
      let reported := ((l.registry.connector? station r.connectorId).getD
        { id := r.connectorId }).report r.status
      let c := { reported.1 with
        errorCode := r.errorCode.name
        info := r.info
        vendorId := r.vendorId
        vendorErrorCode := r.vendorErrorCode }
      match reported.2 with
      | some t => ((l.quiet.putConnector station c).forget t).order settings (.unregister t)
      | none => l.quiet.putConnector station c := by
  -- Whether the connector is new to the storage or not, it is put there all the same.
  have hput (m : Ledger) (hm : m.storage.broken = []) (b : Bool) (c : Connector) :
      (m.write (if b then m.storage.updateConnector station c else m.storage.addConnector station c)
        (.notPersisted "save_connector" station)).quiet =
        m.quiet.setDatabase (m.database.putConnector station c) := by
    cases b
    · exact quiet_addConnector hm _ _ _
    · exact quiet_updateConnector hm _ _ _
  dsimp only [reportConnector]
  generalize ((l.registry.connector? station r.connectorId).getD
    { id := r.connectorId }).report r.status = reported
  obtain ⟨c, dropped⟩ := reported
  dsimp only
  generalize ({ c with
    errorCode := r.errorCode.name
    info := r.info
    vendorId := r.vendorId
    vendorErrorCode := r.vendorErrorCode } : Connector) = c'
  cases dropped with
  | none => exact hput (l.setRegistry (l.registry.setConnector station c')) hw _ c'
  | some t =>
    have hm := quiet_release settings
      ((l.setRegistry (l.registry.setConnector station c')).note (.linkReleased station c.id t)) t
    refine (hput _ ((storage_release _ _).symm ▸ hw) _ c').trans ?_
    simp only [setRegistry] at hm
    rw [hm, database, storage_release]
    unfold order
    split <;> rfl

theorem changes_reportConnector (hk : l.registry.knows station = true)
    (hkey : ∀ i c, l.registry.connector? station i = some c → c.id = i)
    (r : Request.StatusNotification) :
    Changes settings sharing 0 l.quiet (l.reportConnector settings station r).quiet := by
  rw [quiet_reportConnector station hw]
  generalize hc : (l.registry.connector? station r.connectorId).getD { id := r.connectorId } = c
  have hid : c.id = r.connectorId := by
    subst hc
    cases hl : l.registry.connector? station r.connectorId with
    | none => rfl
    | some c => exact hkey _ _ hl
  unfold Connector.report
  by_cases hrel : r.status = .available ∧ c.isActive = true
  · have hcon : l.registry.connector? station c.id = some c := by
      cases hl : l.registry.connector? station r.connectorId with
      | none =>
        obtain rfl : c = { id := r.connectorId } := by simpa [hl] using hc.symm
        exact absurd hrel.2 (by simp [Connector.isActive, noTransaction])
      | some c' =>
        obtain rfl : c = c' := by simpa [hl] using hc.symm
        exact hid ▸ hl
    simp only [if_pos hrel]
    exact .one (.release (l := l.quiet) hcon hrel.2 rfl rfl rfl)
  · simp only [if_neg hrel]
    exact .one (.report (l := l.quiet) (c := c) hk rfl (hid ▸ hc) rfl rfl)

theorem changes_reportStatus (hkey : ∀ i c, l.registry.connector? station i = some c → c.id = i)
    (r : Request.StatusNotification) :
    Changes settings sharing 0 l.quiet (l.reportStatus settings now station r).2.quiet := by
  have h : Changes settings sharing 0 l.quiet (if r.connectorId = 0 ∨ !l.registry.knows station then
      l.amend station .statusNotification fun cp =>
        { cp with status := r.status.name, errorCode := r.errorCode.name, lastSeen := some now }
      else l.reportConnector settings station r).quiet := by
    split
    · exact changes_amend station hw .statusNotification _ (fun _ => rfl) (fun _ => rfl)
        (fun _ => rfl) (fun _ => rfl)
    · rename_i hk
      exact changes_reportConnector station hw (by simpa using (not_or.1 hk).2) hkey r
  exact h.tail (.publish rfl)

theorem quiet_meterValues (r : Request.MeterValues) :
    (l.meterValues station r).2.quiet =
      if (samples station r).isEmpty then l.quiet
      else l.quiet.setDatabase ((samples station r).foldl Database.addSample l.database) := by
  have hput (m : Ledger) (hm : m.storage.broken = []) :
      (if (samples station r).isEmpty then m
        else m.write (m.storage.addSamples (samples station r))
          (.notPersisted "add_meter_samples" station)).quiet =
        if (samples station r).isEmpty then m.quiet
        else m.quiet.setDatabase ((samples station r).foldl Database.addSample m.database) := by
    split
    · rfl
    · exact quiet_addSamples hm _ _
  unfold meterValues
  split
  · split
    · exact hput l hw
    · exact hput (l.note _) hw
  · exact hput l hw

theorem changes_meterValues (r : Request.MeterValues) :
    Changes settings sharing 0 l.quiet (l.meterValues station r).2.quiet := by
  rw [quiet_meterValues station hw]
  split
  · exact .refl _
  · exact .one (.samples (l := l.quiet) _)

omit hw in
theorem id_of_record? (hk : l.Keyed) (id : Int32) (t : Transaction) (h : l.record? id = some t) :
    t.id = id := by
  rcases Option.or_eq_some_iff.1 h with h | ⟨_, h⟩
  · exact hk.1.transaction _ _ h
  · exact hk.2.transaction _ _ h

/-- The answer to a request is a sequence of changes. -/
theorem changes_answer (hk : l.Keyed) (r : Request) :
    Changes settings sharing (l.answer settings now station r).1.opened l.quiet
      (l.answer settings now station r).2.quiet := by
  cases r with
  | bootNotification r =>
    have h0 : (l.boot settings now station r).1.opened = 0 := by
      unfold boot
      dsimp only
      split <;> rfl
    exact h0 ▸ changes_boot now station hw r
  | authorize r => exact changes_authorize station hw r
  | heartbeat _ => exact changes_heartbeat now station
  | startTransaction r => exact changes_start station hw (hk.1.connector station) r
  | stopTransaction r =>
    rw [answer, stop_fst]
    exact changes_stop now station hw (id_of_record? hk) r
  | meterValues r => exact changes_meterValues station hw r
  | statusNotification r => exact changes_reportStatus now station hw (hk.1.connector station) r
  | dataTransfer _ => exact .refl _
  | diagnosticsStatusNotification r =>
    exact changes_amend station hw .diagnosticsStatusNotification _ (fun _ => rfl) (fun _ => rfl)
      (fun _ => rfl) (fun _ => rfl)
  | firmwareStatusNotification r =>
    exact changes_amend station hw .firmwareStatusNotification _ (fun _ => rfl) (fun _ => rfl)
      (fun _ => rfl) (fun _ => rfl)

end Whole

end Ledger

end CentralSystem
