import CentralSystem.Proofs.Ledger.Alike

namespace CentralSystem

/-- A response but for the time that it tells. -/
def Response.untimed : Response → Response
  | .bootNotification _ interval status => .bootNotification default interval status
  | .heartbeat _ => .heartbeat default
  | r => r

namespace Ledger.Alike

variable {settings : Settings} {l l' : Ledger} (h : Alike l l') (now now' : Timestamp)
  (station : String)
include h

theorem heartbeat : Alike (l.heartbeat now station).2 (l'.heartbeat now' station).2 := by
  rcases h.chargePoint station with ⟨h₁, h₂⟩ | ⟨cp, cp', h₁, h₂, he⟩
  · simp only [Ledger.heartbeat, h₁, h₂]
    exact h
  · simp only [Ledger.heartbeat, h₁, h₂]
    have htouch : (cp.touch now).unseen = (cp'.touch now').unseen := he
    exact h.setChargePoint htouch

theorem amend (action : Action) {change change' : ChargePoint → ChargePoint}
    (hc : ∀ cp cp', cp.unseen = cp'.unseen → (change cp).unseen = (change' cp').unseen) :
    Alike (l.amend station action change) (l'.amend station action change') := by
  unfold Ledger.amend
  rcases h.chargePoint station with ⟨h₁, h₂⟩ | ⟨cp, cp', h₁, h₂, he⟩
  · simp only [h₁, h₂]
    exact h.note _ _
  · simp only [h₁, h₂]
    have hset := (h.setChargePoint (hc cp cp' he)).quiet
    apply of_quiet
    have hq := quiet_saveChargePoint (l := l.setRegistry (l.registry.setChargePoint (change cp)))
      h.whole (change cp)
    have hq' := quiet_saveChargePoint
      (l := l'.setRegistry (l'.registry.setChargePoint (change' cp'))) h.whole' (change' cp')
    simp only [setRegistry] at hq hq'
    rw [hq, hq']
    exact hset.updateChargePoint (hc cp cp' he)

theorem identify {cp cp' : ChargePoint} (he : cp.unseen = cp'.unseen)
    (r : Request.BootNotification) :
    Alike (l.identify now station cp r) (l'.identify now' station cp' r) := by
  have hnamed := ChargePoint.unseen_identify he r.chargePointVendor r.chargePointModel
    r.chargePointSerialNumber r.firmwareVersion
  have hsame := ChargePoint.identify_eq_self_iff he r.chargePointVendor r.chargePointModel
    r.chargePointSerialNumber r.firmwareVersion
  apply of_quiet
  rw [quiet_identify now station h.whole, quiet_identify now' station h.whole']
  simp only [hsame]
  generalize cp.identify r.chargePointVendor r.chargePointModel r.chargePointSerialNumber
    r.firmwareVersion = named at *
  generalize cp'.identify r.chargePointVendor r.chargePointModel r.chargePointSerialNumber
    r.firmwareVersion = named' at *
  have htouch : (named.touch now).unseen = (named'.touch now').unseen := hnamed
  have hset := h.quiet.setChargePoint htouch
  split
  · exact hset
  · exact hset.updateChargePoint htouch

theorem enrolled (hk : l.registry.knows station = false) :
    Alike (l.enroll station) (l'.enroll station) := by
  apply of_quiet
  rw [quiet_enroll station h.whole, quiet_enroll station h.whole']
  exact h.quiet.enroll hk

theorem boot (r : Request.BootNotification) :
    (l.boot settings now station r).1.untimed = (l'.boot settings now' station r).1.untimed ∧
      Alike (l.boot settings now station r).2 (l'.boot settings now' station r).2 := by
  unfold Ledger.boot
  generalize hm : (if settings.autoRegisterChargePoints && !l.registry.knows station then
    l.enroll station else l) = m
  generalize hm' : (if settings.autoRegisterChargePoints && !l'.registry.knows station then
    l'.enroll station else l') = m'
  have ha : Alike m m' := by
    rw [← hm, ← hm', h.knows]
    split
    · rename_i hk
      have hk' : l'.registry.knows station = false := by simp_all
      exact h.enrolled station (h.knows station ▸ hk')
    · exact h
  rcases ha.chargePoint station with ⟨h₁, h₂⟩ | ⟨cp, cp', h₁, h₂, he⟩
  · simp only [h₁, h₂]
    exact ⟨rfl, ha.note _ _⟩
  · simp only [h₁, h₂]
    exact ⟨rfl, ha.identify now now' station he r⟩

theorem resolveTag (settings : Settings) (idTag : String) :
    (l.resolveTag settings idTag).1 = (l'.resolveTag settings idTag).1 ∧
      Alike (l.resolveTag settings idTag).2 (l'.resolveTag settings idTag).2 := by
  unfold Ledger.resolveTag
  split
  · exact ⟨rfl, h⟩
  · have ht : l.storage.database.tags = l'.storage.database.tags := h.tags
    simp only [Storage.tag?, Storage.attempt_of_broken_eq_nil h.whole,
      Storage.attempt_of_broken_eq_nil h.whole', ht]
    cases l'.storage.database.tags.get? idTag with
    | some tag => exact ⟨rfl, h⟩
    | none =>
      dsimp only
      split
      · refine ⟨rfl, of_quiet ?_⟩
        rw [quiet_addTag h.whole, quiet_addTag h.whole']
        exact h.quiet.putTag _
      · exact ⟨rfl, h⟩

theorem authorize (r : Request.Authorize) :
    (l.authorize settings station r).1 = (l'.authorize settings station r).1 ∧
      Alike (l.authorize settings station r).2 (l'.authorize settings station r).2 := by
  have hs : (l.authorizationStatus settings station r.idTag).1 =
      (l'.authorizationStatus settings station r.idTag).1 ∧
        Alike (l.authorizationStatus settings station r.idTag).2
          (l'.authorizationStatus settings station r.idTag).2 := by
    unfold Ledger.authorizationStatus
    rcases h.chargePoint station with ⟨h₁, h₂⟩ | ⟨cp, cp', h₁, h₂, he⟩
    · simp only [h₁, h₂]
      exact ⟨trivial, h⟩
    · obtain ⟨htag, ht⟩ := h.resolveTag settings r.idTag
      have hon : cp.enabled = cp'.enabled := (ChargePoint.of_unseen_eq he).2.2.2
      simp only [h₁, h₂]
      generalize l.resolveTag settings r.idTag = resolved at htag ht
      generalize l'.resolveTag settings r.idTag = resolved' at htag ht
      obtain ⟨tag, m⟩ := resolved
      obtain ⟨tag', m'⟩ := resolved'
      obtain rfl : tag = tag' := htag
      cases tag with
      | none => exact ⟨rfl, ht⟩
      | some tag => exact ⟨congrArg (fun on => if on && tag.enabled then _ else _) hon, ht⟩
  have ha (m : Ledger) : m.authorize settings station r =
      (.authorize (.ofStatus (m.authorizationStatus settings station r.idTag).1),
        (m.authorizationStatus settings station r.idTag).2.publish (.authorizationResult station
          r.idTag (m.authorizationStatus settings station r.idTag).1.name)) := rfl
  rw [ha, ha, hs.1]
  exact ⟨rfl, hs.2.publish _⟩

theorem provideConnector (id : UInt32) :
    (l.provideConnector station id).1 = (l'.provideConnector station id).1 ∧
      Alike (l.provideConnector station id).2 (l'.provideConnector station id).2 := by
  unfold Ledger.provideConnector
  rw [h.connector]
  cases l'.registry.connector? station id with
  | some c => exact ⟨rfl, h⟩
  | none =>
    refine ⟨rfl, of_quiet ?_⟩
    have hq := quiet_addConnector
      (l := l.setRegistry (l.registry.setConnector station { id := id })) h.whole
      (.notPersisted "add_connector" station) station { id := id }
    have hq' := quiet_addConnector
      (l := l'.setRegistry (l'.registry.setConnector station { id := id })) h.whole'
      (.notPersisted "add_connector" station) station { id := id }
    simp only [setRegistry] at hq hq'
    dsimp only
    rw [hq, hq']
    exact h.quiet.putConnector station { id := id }

theorem occupy (c : Connector) (r : Request.StartTransaction) (tag : Option UserTag) :
    (l.occupy settings station c r tag).1 = (l'.occupy settings station c r tag).1 ∧
      Alike (l.occupy settings station c r tag).2 (l'.occupy settings station c r tag).2 := by
  refine ⟨?_, of_quiet ?_⟩
  · show startAccepted (newTransaction station l.registry.nextId r tag) = _
    rw [h.nextId]
    rfl
  · rw [quiet_occupy station h.whole, quiet_occupy station h.whole', h.nextId]
    have hput := (h.quiet.enter (newTransaction station l'.registry.nextId r tag)).putConnector
      station { c with transaction := l'.registry.nextId }
    refine (publish ?_ _).order _ _
    split
    · exact (hput.forget _).order _ _
    · exact hput

theorem openUnlinked (r : Request.StartTransaction) (tag : Option UserTag) :
    startAccepted (l.openTransaction station r tag).1 =
        startAccepted (l'.openTransaction station r tag).1 ∧
      Alike ((l.openTransaction station r tag).2.announce settings
          (l.openTransaction station r tag).1)
        ((l'.openTransaction station r tag).2.announce settings
          (l'.openTransaction station r tag).1) := by
  have hfst (m : Ledger) : (m.openTransaction station r tag).1 =
      newTransaction station m.registry.nextId r tag := rfl
  rw [hfst, hfst, h.nextId]
  refine ⟨rfl, of_quiet ?_⟩
  simp only [announce, quiet_order, quiet_publish, quiet_openTransaction h.whole,
    quiet_openTransaction h.whole', h.nextId]
  exact ((h.quiet.enter _).publish _).order _ _

theorem start (r : Request.StartTransaction) :
    (l.start settings station r).1 = (l'.start settings station r).1 ∧
      Alike (l.start settings station r).2 (l'.start settings station r).2 := by
  obtain ⟨htag, ht⟩ := h.resolveTag settings r.idTag
  unfold Ledger.start
  generalize l.resolveTag settings r.idTag = resolved at htag ht
  generalize l'.resolveTag settings r.idTag = resolved' at htag ht
  obtain ⟨tag, m⟩ := resolved
  obtain ⟨tag', m'⟩ := resolved'
  obtain rfl : tag = tag' := htag
  dsimp only at ht ⊢
  rw [ht.knows]
  split
  · obtain ⟨hc, hp⟩ := ht.provideConnector station r.connectorId
    generalize m.provideConnector station r.connectorId = provided at hc hp
    generalize m'.provideConnector station r.connectorId = provided' at hc hp
    obtain ⟨c, n⟩ := provided
    obtain ⟨c', n'⟩ := provided'
    obtain rfl : c = c' := hc
    dsimp only at hp ⊢
    split
    · split
      · exact ⟨rfl, hp.note _ _⟩
      · exact (hp.note _ _).occupy station c r tag
    · exact hp.occupy station c r tag
  · exact (ht.note _ _).openUnlinked station r tag

omit h in
theorem ofStop_closed {t : Transaction} (ho : t.isFinished = false) (r : Request.StopTransaction) :
    Event.ofStop (closed t r) now = Event.ofStop (closed t r) now' := by
  simp [closed, Transaction.finish, Event.ofStop, ho]

theorem stop (hkey : ∀ id t, l.record? id = some t → t.id = id) (r : Request.StopTransaction) :
    (l.stop settings now station r).1 = (l'.stop settings now' station r).1 ∧
      Alike (l.stop settings now station r).2 (l'.stop settings now' station r).2 := by
  have hkey' (id : Int32) (t : Transaction) (ht : l'.record? id = some t) : t.id = id :=
    hkey id t ((h.record id).trans ht)
  refine ⟨by rw [stop_fst, stop_fst], of_quiet ?_⟩
  rw [quiet_stop now station h.whole hkey, quiet_stop now' station h.whole' hkey', h.record]
  cases l'.record? r.transactionId with
  | none => exact h.quiet
  | some t =>
    dsimp only
    split
    · exact h.quiet.forget _
    · rename_i ho
      rw [quiet_close now station h.whole, quiet_close now' station h.whole',
        ofStop_closed now now' (by simpa using ho)]
      exact (((h.quiet.unlink _).settle _).publish _).order _ _

theorem meterValues (r : Request.MeterValues) :
    Alike (l.meterValues station r).2 (l'.meterValues station r).2 := by
  apply of_quiet
  rw [quiet_meterValues station h.whole, quiet_meterValues station h.whole']
  split
  · exact h.quiet
  · exact h.quiet.addSamples _

theorem reportConnector (r : Request.StatusNotification) :
    Alike (l.reportConnector settings station r) (l'.reportConnector settings station r) := by
  apply of_quiet
  rw [quiet_reportConnector station h.whole, quiet_reportConnector station h.whole', h.connector]
  dsimp only
  split
  · exact ((h.quiet.putConnector _ _).forget _).order _ _
  · exact h.quiet.putConnector _ _

theorem reportStatus (r : Request.StatusNotification) :
    Alike (l.reportStatus settings now station r).2
      (l'.reportStatus settings now' station r).2 := by
  refine publish ?_ _
  rw [h.knows]
  split
  · apply h.amend station .statusNotification
    intro cp cp' he
    obtain ⟨seen, rfl⟩ := ChargePoint.eq_of_unseen_eq he
    rfl
  · exact h.reportConnector station r

/-- Ledgers that are alike give the same answers, up to the time, and stay alike. -/
theorem answer (settings : Settings) (now now' : Timestamp) (station : String)
    (hkey : ∀ id t, l.record? id = some t → t.id = id) (r : Request) :
    (l.answer settings now station r).1.untimed = (l'.answer settings now' station r).1.untimed ∧
      Alike (l.answer settings now station r).2 (l'.answer settings now' station r).2 := by
  cases r with
  | bootNotification r => exact h.boot now now' station r
  | authorize r => exact (h.authorize station r).imp_left (congrArg Response.untimed)
  | heartbeat _ => exact ⟨rfl, h.heartbeat now now' station⟩
  | startTransaction r => exact (h.start station r).imp_left (congrArg Response.untimed)
  | stopTransaction r => exact (h.stop now now' station hkey r).imp_left (congrArg Response.untimed)
  | meterValues r => exact ⟨rfl, h.meterValues station r⟩
  | statusNotification r => exact ⟨rfl, h.reportStatus now now' station r⟩
  | dataTransfer _ =>
    refine ⟨?_, h⟩
    show Response.dataTransfer none (if l.registry.knows station then _ else _) = _
    rw [h.knows]
    rfl
  | diagnosticsStatusNotification r =>
    refine ⟨rfl, h.amend station .diagnosticsStatusNotification fun cp cp' he => ?_⟩
    obtain ⟨seen, rfl⟩ := ChargePoint.eq_of_unseen_eq he
    rfl
  | firmwareStatusNotification r =>
    refine ⟨rfl, h.amend station .firmwareStatusNotification fun cp cp' he => ?_⟩
    obtain ⟨seen, rfl⟩ := ChargePoint.eq_of_unseen_eq he
    rfl

end Ledger.Alike

end CentralSystem
