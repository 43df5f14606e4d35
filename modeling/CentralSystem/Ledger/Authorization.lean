import CentralSystem.Ledger.Basic
import CentralSystem.Message.Request
import CentralSystem.Message.Response

namespace CentralSystem.Ledger

variable (settings : Settings) (now : Timestamp) (station : String)

def enroll (l : Ledger) : Ledger :=
  let cp : ChargePoint := { id := station }
  let l := l.write (l.storage.addChargePoint cp) (.notPersisted "add_charge_point" station)
  { l with registry := l.registry.register cp }

def identify (l : Ledger) (cp : ChargePoint) (r : Request.BootNotification) : Ledger :=
  let named := cp.identify r.chargePointVendor r.chargePointModel r.chargePointSerialNumber
    r.firmwareVersion
  let seen := named.touch now
  let l := { l with registry := l.registry.setChargePoint seen }
  let l := if named = cp then l else l.saveChargePoint seen
  if cp.enabled then l else l.note (.disabledStation station)

/-- A charge point is accepted if it is known, also a disabled one: authorization is what gates
charging. -/
def boot (l : Ledger) (r : Request.BootNotification) : Response × Ledger :=
  let answer := Response.bootNotification now settings.heartbeatInterval
  let l :=
    if settings.autoRegisterChargePoints && !l.registry.knows station then l.enroll station else l
  match l.registry.chargePoint? station with
  | some cp => (answer .accepted, l.identify now station cp r)
  | none => (answer .rejected, l.note (.unknownStation .bootNotification station))

/-- The record of a tag, which is made on first use where the settings say so. -/
def resolveTag (l : Ledger) (idTag : String) : Option UserTag × Ledger :=
  if idTag.isEmpty then (none, l)
  else
    match l.storage.tag? idTag with
    | .error e => (none, l.note (.tagLookupFailed idTag e))
    | .ok (some tag) => (some tag, l)
    | .ok none =>
      if settings.autoRegisterTags then
        let tag := UserTag.onFirstUse idTag
        (some tag, l.write (l.storage.addTag tag) (.tagNotPersisted idTag))
      else (none, l)

def authorizationStatus (l : Ledger) (idTag : String) : AuthorizationStatus × Ledger :=
  match l.registry.chargePoint? station with
  | none => (.invalid, l)
  | some cp =>
    match l.resolveTag settings idTag with
    | (none, l) => (.invalid, l)
    | (some tag, l) => (if cp.enabled && tag.enabled then .accepted else .blocked, l)

def authorize (l : Ledger) (r : Request.Authorize) : Response × Ledger :=
  let (status, l) := l.authorizationStatus settings station r.idTag
  (.authorize (.ofStatus status), l.publish (.authorizationResult station r.idTag status.name))

end CentralSystem.Ledger
