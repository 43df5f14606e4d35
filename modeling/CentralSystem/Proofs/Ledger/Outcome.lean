import CentralSystem.Proofs.Ledger.Connectors
import CentralSystem.Proofs.Ledger.Entry
import CentralSystem.Proofs.Ledger.Numbering
import CentralSystem.Proofs.Ledger.Simulation

namespace CentralSystem

/-- What the answer to a request looks at. -/
structure Glance where
  chargePoint : Option ChargePoint := none
  connector : Option Connector := none
  tag : Option UserTag := none
  transaction : Option Transaction := none
  nextId : Int32 := 0

def Glance.unseen (g : Glance) : Glance :=
  { g with chargePoint := g.chargePoint.map ChargePoint.unseen }

namespace Ledger

/-- The ledger without what is ordered, told and noted. -/
def books (l : Ledger) : Ledger := { l with queue := [], events := [], journal := [] }

/-- The record of a tag, as a request that uses it finds or makes it. -/
def tagFor (settings : Settings) (l : Ledger) (idTag : String) : Option UserTag :=
  if idTag.isEmpty then none
  else (l.database.tags.get? idTag).or
    (if settings.autoRegisterTags then some (.onFirstUse idTag) else none)

def glance (settings : Settings) (station : String) (l : Ledger) : Request → Glance
  | .authorize r =>
    { chargePoint := l.registry.chargePoint? station
      tag := l.tagFor settings r.idTag }
  | .startTransaction r =>
    { chargePoint := l.registry.chargePoint? station
      connector := l.registry.connector? station r.connectorId
      tag := l.tagFor settings r.idTag
      nextId := l.registry.nextId }
  | .stopTransaction r =>
    { transaction := l.record? r.transactionId
      connector := (l.record? r.transactionId).bind fun t =>
        l.registry.connector? t.chargePoint t.connector }
  | .statusNotification r =>
    { chargePoint := l.registry.chargePoint? station
      connector := l.registry.connector? station r.connectorId }
  | _ => { chargePoint := l.registry.chargePoint? station }

end Ledger

namespace Glance

variable (settings : Settings) (now : Timestamp) (station : String) (g : Glance)

def identification (cp : ChargePoint) (r : Request.BootNotification) : Entry :=
  let named := cp.identify r.chargePointVendor r.chargePointModel r.chargePointSerialNumber
    r.firmwareVersion
  if named = cp then .see (named.touch now) else .amend (named.touch now)

def boot (r : Request.BootNotification) : Response × List Entry :=
  let answer := Response.bootNotification now settings.heartbeatInterval
  match g.chargePoint with
  | some cp => (answer .accepted, [identification now cp r])
  | none =>
    if settings.autoRegisterChargePoints then
      (answer .accepted, [.enroll station, identification now { id := station } r])
    else (answer .rejected, [])

def provision (idTag : String) : List Entry :=
  if settings.autoRegisterTags && !idTag.isEmpty then [.tag idTag] else []

def authorize (r : Request.Authorize) : Response × List Entry :=
  match g.chargePoint with
  | none => (.authorize (.ofStatus .invalid), [])
  | some cp =>
    (.authorize (.ofStatus (g.tag.elim .invalid fun tag =>
      if cp.enabled && tag.enabled then .accepted else .blocked)), provision settings r.idTag)

/-- What becomes of the connector on which a transaction starts. -/
def occupation (c : Connector) (t : Transaction) : List Entry :=
  [.enter t, .put station { c with transaction := t.id }] ++
    if c.isActive then [.forget c.transaction] else []

def start (r : Request.StartTransaction) : Response × List Entry :=
  let t := Ledger.newTransaction station g.nextId r g.tag
  let tags := provision settings r.idTag
  if g.chargePoint.isSome then
    let c := g.connector.getD { id := r.connectorId }
    let first := if g.connector.isSome then [] else [Entry.put station { id := r.connectorId }]
    if c.isActive && settings.busyPolicy == .reject then
      (.startTransaction (.ofStatus .concurrentTx) 0, tags ++ first)
    else (Ledger.startAccepted t, tags ++ (first ++ occupation station c t))
  else (Ledger.startAccepted t, tags ++ [.enter t])

def stop (r : Request.StopTransaction) : List Entry :=
  match g.transaction with
  | none => []
  | some t =>
    if t.isFinished then [.forget t.id]
    else
      ((g.connector.filter (·.transaction = t.id)).toList.map fun c =>
        .put t.chargePoint { c with transaction := noTransaction }) ++ [.settle (Ledger.closed t r)]

def reportConnector (r : Request.StatusNotification) : List Entry :=
  let reported := (g.connector.getD { id := r.connectorId }).report r.status
  let c := { reported.1 with
    errorCode := r.errorCode.name
    info := r.info
    vendorId := r.vendorId
    vendorErrorCode := r.vendorErrorCode }
  .put station c :: reported.2.toList.map .forget

def reportStatus (r : Request.StatusNotification) : List Entry :=
  if r.connectorId = 0 ∨ g.chargePoint.isNone then
    g.chargePoint.toList.map fun cp =>
      .amend
        { cp with status := r.status.name, errorCode := r.errorCode.name, lastSeen := some now }
  else g.reportConnector station r

def outcome : Request → Response × List Entry
  | .bootNotification r => g.boot settings now station r
  | .authorize r => g.authorize settings r
  | .heartbeat _ => (.heartbeat now, g.chargePoint.toList.map fun cp => .see (cp.touch now))
  | .startTransaction r => g.start settings station r
  | .stopTransaction r => (.stopTransaction (some (.ofStatus .accepted)), g.stop r)
  | .meterValues r => (.meterValues, (Ledger.samples station r).map .sample)
  | .statusNotification r => (.statusNotification, g.reportStatus now station r)
  | .dataTransfer _ =>
    (.dataTransfer none (if g.chargePoint.isSome then .accepted else .unknownVendorId), [])
  | .diagnosticsStatusNotification r =>
    (.diagnosticsStatusNotification, g.chargePoint.toList.map fun cp =>
      .amend { cp with diagnosticsStatus := some r.status.name })
  | .firmwareStatusNotification r =>
    (.firmwareStatusNotification, g.chargePoint.toList.map fun cp =>
      .amend { cp with firmwareStatus := some r.status.name })

def SameOutcome (o o' : Response × List Entry) : Prop :=
  o.1.untimed = o'.1.untimed ∧ o.2.map Entry.unseen = o'.2.map Entry.unseen

theorem unseen_identification (now now' : Timestamp) {cp cp' : ChargePoint}
    (h : cp.unseen = cp'.unseen) (r : Request.BootNotification) :
    (identification now cp r).unseen = (identification now' cp' r).unseen := by
  simp only [identification, ChargePoint.identify_eq_self_iff h]
  have hnamed := ChargePoint.unseen_identify h r.chargePointVendor r.chargePointModel
    r.chargePointSerialNumber r.firmwareVersion
  split
  · exact congrArg Entry.see hnamed
  · exact congrArg Entry.amend hnamed

theorem outcome_congr (settings : Settings) (now now' : Timestamp) (station : String)
    {g g' : Glance} (h : g.unseen = g'.unseen) (r : Request) :
    SameOutcome (g.outcome settings now station r) (g'.outcome settings now' station r) := by
  obtain ⟨cp, c, tag, t, nextId⟩ := g
  obtain ⟨cp', c', tag', t', nextId'⟩ := g'
  simp only [unseen, Glance.mk.injEq] at h
  obtain ⟨hcp, rfl, rfl, rfl, rfl⟩ := h
  have hcases : (cp = none ∧ cp' = none) ∨
      ∃ a a', cp = some a ∧ cp' = some a' ∧ a.unseen = a'.unseen := by
    cases cp <;> cases cp' <;> simp_all
  have hamend {change change' : ChargePoint → ChargePoint}
      (hc : ∀ a a', a.unseen = a'.unseen → (change a).unseen = (change' a').unseen) :
      (cp.toList.map fun cp => Entry.amend (change cp)).map Entry.unseen =
        (cp'.toList.map fun cp => Entry.amend (change' cp)).map Entry.unseen := by
    obtain ⟨rfl, rfl⟩ | ⟨a, a', rfl, rfl, h⟩ := hcases
    · rfl
    · exact congrArg (fun x => [Entry.amend x]) (hc a a' h)
  cases r with
  | bootNotification r =>
    obtain ⟨rfl, rfl⟩ | ⟨a, a', rfl, rfl, h⟩ := hcases
    · cases ha : settings.autoRegisterChargePoints
      · simp [outcome, boot, ha, SameOutcome, Response.untimed]
      · have hnew : (identification now { id := station } r).unseen =
            (identification now' { id := station } r).unseen :=
          unseen_identification now now' rfl r
        simp [outcome, boot, ha, SameOutcome, Response.untimed, hnew]
    · exact ⟨rfl, congrArg (fun e => [e]) (unseen_identification now now' h r)⟩
  | authorize r =>
    obtain ⟨rfl, rfl⟩ | ⟨a, a', rfl, rfl, h⟩ := hcases
    · exact ⟨rfl, rfl⟩
    · have hon : a.enabled = a'.enabled := (ChargePoint.of_unseen_eq h).2.2.2
      simp [outcome, authorize, hon, SameOutcome]
  | heartbeat _ =>
    obtain ⟨rfl, rfl⟩ | ⟨a, a', rfl, rfl, h⟩ := hcases
    · exact ⟨rfl, rfl⟩
    · exact ⟨rfl, congrArg (fun x => [Entry.see x]) h⟩
  | startTransaction r =>
    obtain ⟨rfl, rfl⟩ | ⟨a, a', rfl, rfl, h⟩ := hcases
    · exact ⟨rfl, rfl⟩
    · exact ⟨rfl, rfl⟩
  | stopTransaction r => exact ⟨rfl, rfl⟩
  | meterValues r => exact ⟨rfl, rfl⟩
  | statusNotification r =>
    have hsame : cp.isNone = cp'.isNone := by
      obtain ⟨rfl, rfl⟩ | ⟨a, a', rfl, rfl, h⟩ := hcases <;> rfl
    refine ⟨rfl, ?_⟩
    simp only [outcome, reportStatus, hsame]
    split
    · apply hamend
      intro a a' h
      obtain ⟨seen, rfl⟩ := ChargePoint.eq_of_unseen_eq h
      rfl
    · rfl
  | dataTransfer _ =>
    obtain ⟨rfl, rfl⟩ | ⟨a, a', rfl, rfl, h⟩ := hcases <;> exact ⟨rfl, rfl⟩
  | diagnosticsStatusNotification r | firmwareStatusNotification r =>
    refine ⟨rfl, hamend ?_⟩
    intro a a' h
    obtain ⟨seen, rfl⟩ := ChargePoint.eq_of_unseen_eq h
    rfl

end Glance

namespace Ledger

variable {settings : Settings} {l l' l'' : Ledger}

@[simp] theorem books_quiet : l.quiet.books = l.books := rfl

@[simp] theorem books_note (n : Notice) : (l.note n).books = l.books := rfl

@[simp] theorem books_publish (e : Event) : (l.publish e).books = l.books := rfl

@[simp] theorem books_order (o : WatchOrder) : (l.order settings o).books = l.books := by
  unfold order
  split <;> rfl

theorem books_of_quiet (h : l'.quiet = l.quiet) : l'.books = l.books :=
  (congrArg books h : l'.quiet.books = l.quiet.books)

theorem content_books (l : Ledger) (p : Place) : l.books.content p = l.content p := by
  cases p <;> rfl

theorem view_of_books (h : l'.books = l.books) (p : Place) : l'.view p = l.view p := by
  rw [view, view, ← content_books, h, content_books]

theorem glance_books (settings : Settings) (l : Ledger) (station : String) (r : Request) :
    l.books.glance settings station r = l.glance settings station r := by
  cases r <;> rfl

theorem broken_postAll (es : List Entry) : (l.postAll es).storage.broken = l.storage.broken := by
  induction es generalizing l with
  | nil => rfl
  | cons e rest ih =>
    refine (ih (l := l.post e)).trans ?_
    cases e <;> rfl

theorem broken_of_books {es : List Entry} (h : l'.books = (l.postAll es).books) :
    l'.storage.broken = l.storage.broken :=
  (congrArg (·.storage.broken) h).trans (broken_postAll es)

theorem books_post (e : Entry) : (l.post e).books = l.books.post e := by
  cases e <;> rfl

theorem books_postAll (es : List Entry) : (l.postAll es).books = l.books.postAll es := by
  induction es generalizing l with
  | nil => rfl
  | cons e rest ih =>
    rw [postAll, List.foldl_cons, ← postAll, ih, books_post]
    rfl

theorem books_trans {es es' : List Entry} (h : l'.books = (l.postAll es).books)
    (h' : l''.books = (l'.postAll es').books) : l''.books = (l.postAll (es ++ es')).books := by
  rw [h', books_postAll, h, ← books_postAll, postAll_append]

theorem postAll_samples (samples : List MeterSample) :
    l.postAll (samples.map .sample) =
      l.setDatabase (samples.foldl Database.addSample l.database) := by
  induction samples generalizing l with
  | nil => rfl
  | cons s rest ih => exact ih

section Whole

variable (now : Timestamp) (station : String) (hw : l.storage.broken = [])
include hw

theorem books_enroll : (l.enroll station).books = (l.postAll [.enroll station]).books :=
  books_of_quiet (quiet_enroll station hw)

theorem books_identify (cp : ChargePoint) (r : Request.BootNotification) :
    (l.identify now station cp r).books =
      (l.postAll [Glance.identification now cp r]).books := by
  rw [← books_quiet, quiet_identify now station hw, Glance.identification]
  dsimp only
  split <;> rfl

/-- What is told of an answer: its response, and the entries that it posts. -/
abbrev ComesTo (l : Ledger) (answer : Response × Ledger) (outcome : Response × List Entry) : Prop :=
  answer.1 = outcome.1 ∧ answer.2.books = (l.postAll outcome.2).books

omit hw in
theorem knows_eq_isSome (r : Registry) (s : String) : r.knows s = (r.chargePoint? s).isSome := by
  simp [Registry.knows, Registry.chargePoint?, Table.contains]

theorem boot_eq (r : Request.BootNotification) : ComesTo l (l.boot settings now station r)
    ((l.glance settings station (.bootNotification r)).boot settings now station r) := by
  unfold boot Glance.boot glance
  cases hcp : l.registry.chargePoint? station with
  | some cp =>
    simp only [knows_eq_isSome, hcp, Option.isSome_some, Bool.not_true, Bool.and_false,
      Bool.false_eq_true, ↓reduceIte]
    exact ⟨rfl, books_identify now station hw cp r⟩
  | none =>
    simp only [knows_eq_isSome, hcp, Option.isSome_none, Bool.not_false, Bool.and_true]
    cases settings.autoRegisterChargePoints with
    | false =>
      simp only [Bool.false_eq_true, ↓reduceIte, hcp]
      exact ⟨rfl, rfl⟩
    | true =>
      have hq := quiet_enroll station hw
      have hnew : (l.enroll station).registry.chargePoint? station = some { id := station } := by
        rw [registry_of_quiet hq]
        refine (Registry.chargePoint?_register ?_ station).trans (if_pos rfl)
        rw [knows_eq_isSome, hcp]
        rfl
      have hwhole : (l.enroll station).storage.broken = [] := by
        rw [storage_of_quiet hq]
        exact hw
      simp only [↓reduceIte, hnew]
      exact ⟨rfl, books_trans (books_enroll station hw) (books_identify now station hwhole _ r)⟩

theorem resolveTag_eq (settings : Settings) (idTag : String) :
    (l.resolveTag settings idTag).1 = l.tagFor settings idTag ∧
      (l.resolveTag settings idTag).2.books =
        (l.postAll (Glance.provision settings idTag)).books := by
  unfold resolveTag tagFor Glance.provision
  cases hi : idTag.isEmpty with
  | true => simp [postAll]
  | false =>
    simp only [Bool.false_eq_true, ↓reduceIte, Bool.not_false, Bool.and_true, Storage.tag?,
      Storage.attempt_of_broken_eq_nil hw]
    cases ht : l.storage.database.tags.get? idTag with
    | some tag =>
      refine ⟨rfl, ?_⟩
      have hsame : l.setDatabase (l.database.provideTag idTag) = l := by
        simp [Database.provideTag, Table.provide, Table.contains, ht, setDatabase]
      cases settings.autoRegisterTags with
      | true => exact congrArg books hsame.symm
      | false => rfl
    | none =>
      cases settings.autoRegisterTags with
      | false => exact ⟨rfl, rfl⟩
      | true =>
        have hq := quiet_addTag hw (.tagNotPersisted idTag) (.onFirstUse idTag)
        have hput : l.database.provideTag idTag = l.database.putTag (.onFirstUse idTag) := by
          simp [Database.provideTag, Table.provide, Table.contains, ht, Database.putTag]
          rfl
        refine ⟨rfl, ?_⟩
        show (l.write _ _).books = (l.setDatabase (l.database.provideTag idTag)).books
        rw [hput, ← books_quiet, hq]
        rfl

theorem authorize_eq (r : Request.Authorize) : ComesTo l (l.authorize settings station r)
    ((l.glance settings station (.authorize r)).authorize settings r) := by
  unfold authorize authorizationStatus Glance.authorize glance
  cases hcp : l.registry.chargePoint? station with
  | none => exact ⟨rfl, rfl⟩
  | some cp =>
    obtain ⟨htag, hbooks⟩ := resolveTag_eq hw settings r.idTag
    dsimp only
    generalize l.resolveTag settings r.idTag = resolved at htag hbooks
    obtain ⟨tag, m⟩ := resolved
    obtain rfl : tag = l.tagFor settings r.idTag := htag
    cases l.tagFor settings r.idTag with
    | none => exact ⟨rfl, hbooks⟩
    | some tag => exact ⟨rfl, hbooks⟩

omit hw in
theorem heartbeat_eq : ComesTo l (l.heartbeat now station) (.heartbeat now,
    (l.registry.chargePoint? station).toList.map fun cp => .see (cp.touch now)) := by
  unfold heartbeat
  cases l.registry.chargePoint? station <;> exact ⟨rfl, rfl⟩

theorem books_amend (action : Action) (change : ChargePoint → ChargePoint) :
    (l.amend station action change).books = (l.postAll
      ((l.registry.chargePoint? station).toList.map fun cp => .amend (change cp))).books := by
  unfold amend
  cases l.registry.chargePoint? station with
  | none => rfl
  | some cp =>
    exact (congrArg books (quiet_saveChargePoint
      (l := l.setRegistry (l.registry.setChargePoint (change cp))) hw (change cp)) :)

theorem provideConnector_eq (id : UInt32) :
    (l.provideConnector station id).1 =
        (l.registry.connector? station id).getD { id := id } ∧
      (l.provideConnector station id).2.books = (l.postAll
        (if (l.registry.connector? station id).isSome then []
          else [.put station { id := id }])).books := by
  unfold provideConnector
  cases l.registry.connector? station id with
  | some c => exact ⟨rfl, rfl⟩
  | none =>
    exact ⟨rfl, (congrArg books (quiet_addConnector
      (l := l.setRegistry (l.registry.setConnector station { id := id })) hw
      (.notPersisted "add_connector" station) station { id := id }) :)⟩

theorem occupy_eq (settings : Settings) (c : Connector) (r : Request.StartTransaction)
    (tag : Option UserTag) :
    let t := newTransaction station l.registry.nextId r tag
    ComesTo l (l.occupy settings station c r tag)
      (startAccepted t, Glance.occupation station c t) := by
  refine ⟨rfl, ?_⟩
  rw [← books_quiet, quiet_occupy station hw, books_order, books_publish, Glance.occupation]
  split
  · rw [books_order]
    rfl
  · rfl

theorem openUnlinked_eq (settings : Settings) (r : Request.StartTransaction)
    (tag : Option UserTag) :
    let t := newTransaction station l.registry.nextId r tag
    ComesTo l (startAccepted (l.openTransaction station r tag).1,
        (l.openTransaction station r tag).2.announce settings (l.openTransaction station r tag).1)
      (startAccepted t, [.enter t]) := by
  refine ⟨rfl, ?_⟩
  rw [announce, books_order, books_publish, ← books_quiet, quiet_openTransaction hw]
  rfl

theorem start_eq (r : Request.StartTransaction) : ComesTo l (l.start settings station r)
    ((l.glance settings station (.startTransaction r)).start settings station r) := by
  obtain ⟨htag, hbooks⟩ := resolveTag_eq hw settings r.idTag
  have hr := registry_resolveTag settings l r.idTag
  have hw' : (l.resolveTag settings r.idTag).2.storage.broken = [] :=
    (broken_of_books hbooks).trans hw
  show ComesTo l _ (Glance.start settings station ⟨l.registry.chargePoint? station,
    l.registry.connector? station r.connectorId, l.tagFor settings r.idTag, none,
    l.registry.nextId⟩ r)
  unfold start Glance.start
  generalize l.resolveTag settings r.idTag = resolved at htag hbooks hr hw'
  obtain ⟨tag, l₁⟩ := resolved
  dsimp only at htag hbooks hr hw'
  cases hcp : l.registry.chargePoint? station with
  | none =>
    obtain ⟨hresponse, hopen⟩ := openUnlinked_eq
      (l := l₁.note (.unknownStation .startTransaction station)) station hw' settings r tag
    rw [registry_note, hr] at hresponse hopen
    simp only [knows_eq_isSome, hr, hcp, ← htag, Option.isSome_none, Bool.false_eq_true, ↓reduceIte]
    exact ⟨hresponse, books_trans hbooks hopen⟩
  | some cp =>
    obtain ⟨hc, hp⟩ := provideConnector_eq station hw' r.connectorId
    obtain ⟨hw'', hn, -⟩ := transactions_provideConnector station hw' r.connectorId
    simp only [knows_eq_isSome, hr, hcp, ← htag, Option.isSome_some, ↓reduceIte]
    generalize l₁.provideConnector station r.connectorId = provided at hc hp hw'' hn
    obtain ⟨c, l₂⟩ := provided
    dsimp only at hc hp hw'' hn ⊢
    rw [hr] at hc hp hn
    obtain rfl : c = (l.registry.connector? station r.connectorId).getD { id := r.connectorId } :=
      hc
    generalize l.registry.connector? station r.connectorId = known at hp ⊢
    generalize (if known.isSome = true then []
      else [Entry.put station { id := r.connectorId }]) = first at hp ⊢
    -- Before the transaction is opened, a busy connector is noted.
    have hoccupy (m : Ledger) (hm : m.books = l₂.books) := by
      have hwm : m.storage.broken = [] := (congrArg (·.storage.broken) hm).trans hw''
      have hnm : m.registry.nextId = l.registry.nextId := (congrArg (·.registry.nextId) hm).trans hn
      have hcomes := occupy_eq station hwm settings (known.getD { id := r.connectorId }) r tag
      rw [hnm] at hcomes
      exact And.intro hcomes.1 (books_trans hbooks (books_trans (hm.trans hp) hcomes.2))
    cases (known.getD { id := r.connectorId }).isActive with
    | false => exact hoccupy l₂ rfl
    | true =>
      cases settings.busyPolicy with
      | reject => exact ⟨rfl, books_trans hbooks hp⟩
      | accept => exact hoccupy (l₂.note _) rfl

omit hw in
theorem postAll_stop {t : Transaction} {q : Request.StopTransaction}
    (hr : l.record? q.transactionId = some t) :
    l.postAll ((l.glance settings station (.stopTransaction q)).stop q) =
      if t.isFinished then l.forget t.id else (l.unlink t).settle (closed t q) := by
  simp only [Glance.stop, glance, hr, Option.bind_some]
  split
  · rfl
  · rw [unlink]
    cases l.registry.connector? t.chargePoint t.connector with
    | none => rfl
    | some c =>
      by_cases htx : c.transaction = t.id
      · simp only [htx, Option.filter_some, decide_true, ↓reduceIte]
        rfl
      · simp only [htx, Option.filter_some, decide_false, ↓reduceIte]
        rfl

omit hw in
theorem books_unlink_quiet (t : Transaction) : (l.quiet.unlink t).books = (l.unlink t).books := by
  unfold unlink
  rw [registry_quiet]
  split
  · split <;> rfl
  · rfl

theorem stop_eq (hk : l.Keyed) (q : Request.StopTransaction) :
    ComesTo l (l.stop settings now station q) (.stopTransaction (some (.ofStatus .accepted)),
      (l.glance settings station (.stopTransaction q)).stop q) := by
  refine ⟨stop_fst now station q, ?_⟩
  rw [← books_quiet, quiet_stop now station hw (id_of_record? hk)]
  cases hr : l.record? q.transactionId with
  | none => simp only [Glance.stop, glance, hr, postAll, List.foldl_nil, books_quiet]
  | some t =>
    rw [postAll_stop station hr]
    dsimp only
    split
    · rfl
    · next ho =>
      obtain ⟨hid, hs, hi, -⟩ := closed_eq (by simpa using ho) q
      have hsame : l.quiet.unlink (closed t q) = l.quiet.unlink t := by
        rw [unlink, unlink, hs, hi, hid]
      rw [quiet_close now station hw, books_order, books_publish, hsame]
      exact (congrArg (Ledger.settle · (closed t q)) (books_unlink_quiet t) :)

theorem books_meterValues (r : Request.MeterValues) : (l.meterValues station r).2.books =
    (l.postAll ((samples station r).map .sample)).books := by
  rw [← books_quiet, quiet_meterValues station hw, postAll_samples]
  split
  · next h => rw [List.isEmpty_iff.1 h]; rfl
  · rfl

theorem books_reportConnector (r : Request.StatusNotification) :
    (l.reportConnector settings station r).books = (l.postAll
      ((l.glance settings station (.statusNotification r)).reportConnector station r)).books := by
  rw [← books_quiet, quiet_reportConnector station hw, Glance.reportConnector, glance]
  dsimp only
  split
  · next h => rw [h, books_order]; rfl
  · next h => rw [h]; rfl

theorem reportStatus_eq (r : Request.StatusNotification) :
    ComesTo l (l.reportStatus settings now station r) (.statusNotification,
      (l.glance settings station (.statusNotification r)).reportStatus now station r) := by
  refine ⟨rfl, ?_⟩
  have hknown : (r.connectorId = 0 ∨ (!l.registry.knows station) = true) ↔
      (r.connectorId = 0 ∨ (l.registry.chargePoint? station).isNone = true) := by
    rw [knows_eq_isSome]
    cases l.registry.chargePoint? station <;> simp
  simp only [reportStatus, books_publish, Glance.reportStatus, glance, hknown]
  by_cases h : r.connectorId = 0 ∨ (l.registry.chargePoint? station).isNone = true
  · simp only [h, ↓reduceIte]
    exact books_amend station hw _ _
  · simp only [h, ↓reduceIte]
    exact books_reportConnector station hw r

/-- The answer to a request is what a glance at the books comes to. -/
theorem answer_eq (hk : l.Keyed) (r : Request) : ComesTo l (l.answer settings now station r)
    ((l.glance settings station r).outcome settings now station r) := by
  cases r with
  | bootNotification r => exact boot_eq now station hw r
  | authorize r => exact authorize_eq station hw r
  | heartbeat _ => exact heartbeat_eq now station
  | startTransaction r => exact start_eq station hw r
  | stopTransaction r => exact stop_eq now station hw hk r
  | meterValues r => exact ⟨rfl, books_meterValues station hw r⟩
  | statusNotification r => exact reportStatus_eq now station hw r
  | dataTransfer _ =>
    refine ⟨?_, rfl⟩
    rw [answer, dataTransfer, knows_eq_isSome]
    rfl
  | diagnosticsStatusNotification r => exact ⟨rfl, books_amend station hw _ _⟩
  | firmwareStatusNotification r => exact ⟨rfl, books_amend station hw _ _⟩

end Whole

end Ledger

end CentralSystem
