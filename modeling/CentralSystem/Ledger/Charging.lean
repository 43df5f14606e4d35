import CentralSystem.Ledger.Authorization
import CentralSystem.Ledger.Reading

namespace CentralSystem.Ledger

variable (settings : Settings) (now : Timestamp) (station : String)

def newTransaction (id : Int32) (r : Request.StartTransaction) (tag : Option UserTag) :
    Transaction where
  id
  chargePoint := station
  connector := r.connectorId
  idTag := r.idTag
  username := tag.elim "" (·.username)
  userNote := tag.elim "" (·.note)
  meterStart := r.meterStart
  timeStart := r.timestamp
  reservation := r.reservationId

def openTransaction (l : Ledger) (r : Request.StartTransaction) (tag : Option UserTag) :
    Transaction × Ledger :=
  let (id, registry) := l.registry.allocate
  let t := newTransaction station id r tag
  let l := { l with registry }
  let l := l.write (l.storage.addTransaction t) (.notPersisted "add_transaction" station)
  (t, { l with registry := l.registry.putTransaction t })

/-- The connector of a known charge point, which is put up on first use. -/
def provideConnector (l : Ledger) (id : UInt32) : Connector × Ledger :=
  match l.registry.connector? station id with
  | some c => (c, l)
  | none =>
    let c : Connector := { id }
    let l := { l with registry := l.registry.setConnector station c }
    (c, l.write (l.storage.addConnector station c) (.notPersisted "add_connector" station))

def link (l : Ledger) (owner : String) (c : Connector) (transaction : Int32) : Ledger :=
  let c := { c with transaction }
  ({ l with registry := l.registry.setConnector owner c }).saveConnector owner c

def announce (l : Ledger) (t : Transaction) : Ledger :=
  (l.publish (.ofStart t)).order settings (.register t.id ⟨t.chargePoint, t.connector⟩)

def startAccepted (t : Transaction) : Response := .startTransaction (.ofStatus .accepted) t.id

/-- Opens a transaction on a connector and gives up the one that it had. -/
def occupy (l : Ledger) (c : Connector) (r : Request.StartTransaction) (tag : Option UserTag) :
    Response × Ledger :=
  let (t, l) := l.openTransaction station r tag
  let l := l.link station c t.id
  let l :=
    if c.isActive then
      (l.note (.displaced station c.id c.transaction)).release settings c.transaction
    else l
  (startAccepted t, l.announce settings t)

/-- A charge point that is not known starts a transaction all the same, on no connector. -/
def start (l : Ledger) (r : Request.StartTransaction) : Response × Ledger :=
  let (tag, l) := l.resolveTag settings r.idTag
  if l.registry.knows station then
    let (c, l) := l.provideConnector station r.connectorId
    if c.isActive then
      let l := l.note (.busyConnector station c.id c.transaction)
      match settings.busyPolicy with
      | .reject => (.startTransaction (.ofStatus .concurrentTx) 0, l)
      | .accept => l.occupy settings station c r tag
    else l.occupy settings station c r tag
  else
    let l := l.note (.unknownStation .startTransaction station)
    let (t, l) := l.openTransaction station r tag
    (startAccepted t, l.announce settings t)

/-- A transaction, open or closed, from the registry or else from the storage. What is found there
is registered. -/
def findTransaction (l : Ledger) (id : Int32) : Option Transaction × Ledger :=
  match l.registry.transactions.get? id with
  | some t => (some t, l)
  | none =>
    match l.storage.transaction? id with
    | .ok (some t) => (some t, { l with registry := l.registry.putTransaction t })
    | .ok none => (none, l)
    | .error e => (none, l.note (.transactionLookupFailed id e))

/-- The closed transaction. Readings of the station at begin and end win over what it was opened
with and what the request says. -/
def closed (t : Transaction) (r : Request.StopTransaction) : Transaction :=
  let data := r.transactionData.getD []
  let (meterStart, timeStart) :=
    (MeterValue.lastReading? .transactionBegin data).getD (t.meterStart, t.timeStart)
  let (meterStop, timeStop) :=
    (MeterValue.lastReading? .transactionEnd data).getD (r.meterStop, r.timestamp)
  { t with meterStart, timeStart }.finish meterStop timeStop (r.reason.map StopReason.name)

/-- Frees the connector of a transaction, if it still has that transaction. -/
def free (l : Ledger) (t : Transaction) : Ledger :=
  match l.registry.connector? t.chargePoint t.connector with
  | some c => if c.transaction = t.id then l.link t.chargePoint c noTransaction else l
  | none => l

def close (l : Ledger) (t : Transaction) (r : Request.StopTransaction) : Ledger :=
  let l :=
    if t.chargePoint = station then l else l.note (.foreignStop station t.chargePoint t.id)
  let t := closed t r
  let l := { l with registry := l.registry.putTransaction t }
  let l := l.write (l.storage.updateTransaction t) (.notPersisted "update_transaction" station)
  let l := l.free t
  let l := { l with registry := l.registry.removeTransaction t.id }
  (l.publish (.ofStop t now)).order settings (.unregister t.id)

/-- A stop is always accepted, also of a transaction that is not known or closed already. -/
def stop (l : Ledger) (r : Request.StopTransaction) : Response × Ledger :=
  let answer := Response.stopTransaction (some (.ofStatus .accepted))
  match l.findTransaction r.transactionId with
  | (none, l) => (answer, l.note (.unknownTransaction .stopTransaction station r.transactionId))
  | (some t, l) =>
    if t.isFinished then
      let l := l.note (.alreadyClosed station r.transactionId)
      (answer, { l with registry := l.registry.removeTransaction r.transactionId })
    else (answer, l.close settings now station t r)

end CentralSystem.Ledger
