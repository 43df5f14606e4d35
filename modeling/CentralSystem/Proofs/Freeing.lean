import CentralSystem.Proofs.Sharing
import CentralSystem.Proofs.Ledger.Closing

namespace CentralSystem

namespace Database

variable {db : Database} (hk : db.Keyed) {location : Location} {station other : String}
include hk

theorem sharesSite_iff_of_some (hl : db.locationOf? station = some location) :
    db.SharesSite station other ↔
      other = station ∨ other ∈ location.chargePoints ∨ db.named? other = some location.id := by
  obtain ⟨id, hid, hloc⟩ := Option.bind_eq_some_iff.1 hl
  obtain rfl : location.id = id := hk.location id location hloc
  constructor
  · rintro ⟨location', hl', location'', hloc', hb⟩
    obtain rfl : location = location' := Option.some.inj (hl.symm.trans hl')
    obtain rfl : location = location'' := Option.some.inj (hloc.symm.trans hloc')
    exact .inr hb
  · rintro (rfl | hb)
    · exact ⟨location, hl, location, hloc, .inr hid⟩
    · exact ⟨location, hl, location, hloc, hb⟩

theorem sharesSite_of_named (hloc : db.locations.get? location.id = some location)
    (hother : db.named? other = some location.id)
    (h : station = other ∨ db.named? station = some location.id) :
    db.SharesSite station other := by
  have hnamed : db.named? station = some location.id := h.elim (fun he => he ▸ hother) id
  have hl : db.locationOf? station = some location := by rw [locationOf?, hnamed]; exact hloc
  exact (sharesSite_iff_of_some hk hl).2 (.inr (.inr hother))

end Database

namespace Plant

open Ledger

variable {tiers : PowerTiers} {l : Ledger} (hk : l.Keyed) {station s : String} {i : UInt32}
  {c : Connector}
include hk

theorem connector?_database_assign_of_eq {location : Location}
    (hw : l.storage.Works .updateConnectorLimit)
    (hdb : l.database.connector? s i = l.registry.connector? s i) :
    (assign l (plan tiers l location station)).database.connector? s i =
      (assign l (plan tiers l location station)).registry.connector? s i := by
  rw [database_assign_of_works _ hw, connector?_foldl_limitConnector hk.2 (nodup_plan hk), hdb,
    connector?_assign hk, limitAfter]
  cases hf : (plan tiers l location station).find? (·.key = (s, i)) with
  | none =>
    cases hc : l.registry.connector? s i with
    | none => rfl
    | some c =>
      rw [Option.elim_none, Registry.limitAt_of_connector? hc]
      rfl
  | some a =>
    have hkey : a.key = (s, i) := by simpa using List.find?_some hf
    have hmem := mem_of_mem_assignments (List.mem_of_find?_eq_some hf)
    obtain ⟨rfl, rfl⟩ := Prod.mk.inj hkey
    have hc := ((mem_smartConnectors_site hk.1.connector).1 hmem.1).2
    rw [hc]
    rfl

theorem takesPart_iff_sharesSite {location : Location}
    (hl : l.database.locationOf? station = some location) (hknown : l.registry.knows s = true) :
    l.TakesPart location station s ↔
      l.database.isSmart s = true ∧ l.database.SharesSite station s := by
  rw [Database.sharesSite_iff_of_some hk.2 hl]
  constructor
  · exact fun h => ⟨h.smart, h.place⟩
  · exact fun h => ⟨hknown, h.1, h.2⟩

variable (tiers) (station)

theorem connector?_shared_of_idle (hw : l.storage.Works .updateConnectorLimit)
    (hc : l.registry.connector? s i = some c) (hdb : l.database.connector? s i = some c)
    (hoff : c.isActive = false) : ∃ limit,
      (shared tiers l station).registry.connector? s i = some { c with limit := limit } ∧
      (shared tiers l station).database.connector? s i = some { c with limit := limit } ∧
      (l.database.isSmart s = true ∧ l.database.SharesSite station s → limit = 0) ∧
      (¬(l.database.isSmart s = true ∧ l.database.SharesSite station s) → limit = c.limit) := by
  cases hl : l.database.locationOf? station with
  | none =>
    rw [shared_of_none hl]
    refine ⟨c.limit, hc, hdb, ?_, fun _ => rfl⟩
    rintro ⟨-, location, hl', -⟩
    rw [hl] at hl'
    cases hl'
  | some location =>
    rw [shared_of_some hl]
    have hreg : (assign l (plan tiers l location station)).registry.connector? s i =
        some { c with limit := limitAfter tiers l location station s i } := by
      rw [connector?_assign hk, hc, Option.map_some]
    have hpart := takesPart_iff_sharesSite hk hl (Registry.knows_of_connector? hc)
    refine ⟨limitAfter tiers l location station s i, hreg, ?_, fun h => ?_, fun h => ?_⟩
    · exact (connector?_database_assign_of_eq hk hw (hdb.trans hc.symm)).trans hreg
    · exact limitAfter_of_idle hk (hpart.2 h) hc hoff
    · rw [limitAfter_of_not_takesPart hk fun h' => h (hpart.1 h')]
      exact Registry.limitAt_of_connector? hc

end Plant

namespace Ledger

variable (settings : Settings) (now : Timestamp) (station : String) {l : Ledger} {t : Transaction}
  (hw : l.storage.broken = []) (hk : l.Keyed) {r : Request.StopTransaction}
  (hr : l.record? r.transactionId = some t) (ho : t.isFinished = false)
include hw hk hr ho

theorem sameSites_stop :
    l.database.SameSites (l.answer settings now station (.stopTransaction r)).2.database := by
  obtain ⟨-, -, -, hframe⟩ := frame_unlink l.quiet (closed t r)
  rw [database_stop settings now station hw (id_of_record? hk) hr ho, hframe,
    Database.updateTransaction]
  split
  · exact ⟨fun _ => rfl, fun _ => rfl, rfl⟩
  · exact ⟨fun _ => rfl, fun _ => rfl, rfl⟩

theorem connector?_stop {c : Connector}
    (hc : l.registry.connector? t.chargePoint t.connector = some c) (htx : c.transaction = t.id) :
    let l' := (l.answer settings now station (.stopTransaction r)).2
    l'.registry.connector? t.chargePoint t.connector =
        some { c with transaction := noTransaction } ∧
      l'.database.connector? t.chargePoint t.connector =
        some { c with transaction := noTransaction } := by
  obtain ⟨hid, hs, hi, -⟩ := closed_eq ho r
  have hci : c.id = t.connector := hk.1.connector _ _ _ hc
  have hfreed : l.quiet.unlink (closed t r) =
      l.quiet.putConnector t.chargePoint { c with transaction := noTransaction } := by
    rw [unlink, hs, hi, hid, registry_quiet, hc]
    exact if_pos htx
  have hreg := registry_stop settings now station hw (id_of_record? hk) hr ho
  have hdb := database_stop settings now station hw (id_of_record? hk) hr ho
  rw [hfreed] at hreg hdb
  constructor
  · rw [hreg, registry_putConnector, registry_quiet]
    refine (Registry.connector?_setConnector (Registry.knows_of_connector? hc) _ _ _).trans ?_
    exact if_pos ⟨rfl, hci.symm⟩
  · have hput : (l.quiet.putConnector t.chargePoint
        { c with transaction := noTransaction }).database.connector? t.chargePoint t.connector =
          some { c with transaction := noTransaction } := by
      rw [database, storage_putConnector, Database.connector?_putConnector]
      exact if_pos ⟨rfl, hci.symm⟩
    rw [hdb, Database.updateTransaction]
    split <;> exact hput

end Ledger

namespace Hub

variable {h : Hub} (hs : h.plant.switchboard.Sound) (hw : h.plant.ledger.storage.broken = [])
  (hk : h.plant.ledger.Keyed) {tiers : PowerTiers} (ht : h.settings.tiers = some tiers)
include hs hw hk ht

/-- A stop over an open connection frees the connector of its transaction, here and on record. Its
limit is gone behind that if its charge point takes profiles and belongs to the site of the sender,
as it does when it sends the stop itself or names the same location, and else the limit is left. -/
theorem limit_of_freed {id : Nat} {sender : Connection}
    (hsender : h.plant.switchboard.connection? id = some sender) (hopen : sender.isOpen = true)
    (now : Timestamp) {text : String} {r : Request.StopTransaction}
    (hr : Request.ofText? text = some (.stopTransaction r)) {t : Transaction}
    (hrecord : h.plant.ledger.record? r.transactionId = some t) (ho : t.isFinished = false)
    {c : Connector} (hc : h.plant.ledger.registry.connector? t.chargePoint t.connector = some c)
    (htx : c.transaction = t.id) :
    let db := h.plant.ledger.database
    let l' := (h.receive now id text).plant.ledger
    ∃ limit,
      l'.registry.connector? t.chargePoint t.connector =
        some { c with transaction := noTransaction, limit := limit } ∧
      l'.database.connector? t.chargePoint t.connector =
        some { c with transaction := noTransaction, limit := limit } ∧
      (db.isSmart t.chargePoint = true ∧ db.SharesSite sender.station t.chargePoint →
        limit = 0) ∧
      (¬(db.isSmart t.chargePoint = true ∧ db.SharesSite sender.station t.chargePoint) →
        limit = c.limit) ∧
      ∀ location, db.locationOf? t.chargePoint = some location →
        db.isSmart t.chargePoint = true →
          sender.station = t.chargePoint ∨ db.named? sender.station = some location.id →
            limit = 0 := by
  dsimp only
  obtain ⟨uniqueId, he⟩ := receive_of_request hs hsender hopen now hr
  have hchanges : Changes h.settings false _ _ _ :=
    Ledger.changes_answer now sender.station hw hk (.stopTransaction r)
  have hw' : (h.answering now sender (.stopTransaction r) uniqueId).plant.ledger.storage.broken =
      [] := hchanges.broken.trans hw
  have hk' : (h.answering now sender (.stopTransaction r) uniqueId).plant.ledger.Keyed :=
    hchanges.preserve (P := Ledger.Keyed) Change.keyed hk
  have hsites := Ledger.sameSites_stop h.settings now sender.station hw hk hrecord ho
  obtain ⟨hreg, hdb⟩ := Ledger.connector?_stop h.settings now sender.station hw hk hrecord ho hc htx
  obtain ⟨limit, hreg', hdb', htaken, hkept⟩ := Plant.connector?_shared_of_idle tiers hk'
    sender.station (Storage.works_of_broken_eq_nil hw' _) hreg hdb rfl
  have hbooks := Ledger.SameBooks.of_quiet
    (quiet_followUp hw' ht now sender.station (.stopTransaction r))
  rw [← he] at hbooks
  have hsmart := hsites.smart t.chargePoint
  have hshares := hsites.sharesSite_iff sender.station t.chargePoint
  refine ⟨limit, ?_, ?_, fun h' => ?_, fun h' => ?_, fun location hl hon h' => ?_⟩
  · rw [hbooks.registry]
    exact hreg'
  · rw [hbooks.database]
    exact hdb'
  · exact htaken ⟨hsmart.trans h'.1, hshares.2 h'.2⟩
  · exact hkept fun h'' => h' ⟨hsmart.symm.trans h''.1, hshares.1 h''.2⟩
  · obtain ⟨hloc, hnamed⟩ := Ledger.locations_get? hl hk.2
    exact htaken ⟨hsmart.trans hon,
      hshares.2 (Database.sharesSite_of_named hk.2 hloc hnamed h')⟩

end Hub

namespace Database

theorem Keyed.putLocation {db : Database} (hk : db.Keyed) (location : Location) :
    (db.putLocation location).Keyed :=
  { hk with
    location := fun id l hl => by
      rw [Database.putLocation, Table.get?_insert] at hl
      split at hl
      · next hid => exact Option.some.inj hl ▸ hid.symm
      · exact hk.location id l hl }

def depotAndHarbor : Database :=
  depot.putLocation ⟨"harbor", "Harbor", 32, 64, ["west"]⟩
    |>.putChargePoint { id := "west", location := some "harbor", smartCharging := true }
    |>.putConnector "north" { id := 1, status := .charging, transaction := 7, limit := 32 }

theorem keyed_depotAndHarbor : depotAndHarbor.Keyed :=
  ((keyed_depot.putLocation _).putChargePoint _).putConnector _ _

end Database

namespace Hub

def depotAndHarbor : Hub where
  settings := Hub.depot.settings
  plant :=
    { ledger := (Ledger.load { database := .depotAndHarbor }).toOption.getD default
      switchboard := (({} : Switchboard).connect "north").2.connect "west" |>.2 }

theorem keyed_depotAndHarbor : depotAndHarbor.plant.ledger.Keyed := by
  obtain ⟨l, hl, hs, hloads⟩ := Ledger.load_ok Database.keyed_depotAndHarbor
  have hledger : depotAndHarbor.plant.ledger = l := by rw [depotAndHarbor, hl]; rfl
  rw [hledger, Ledger.Keyed, Ledger.database, hs]
  exact ⟨hloads.keyed Database.keyed_depotAndHarbor, Database.keyed_depotAndHarbor⟩

def stopText : String :=
  "[2,\"b\",\"StopTransaction\",\x7b\"meterStop\":9," ++
    "\"timestamp\":\"1970-01-01T00:00:00Z\",\"transactionId\":7\x7d]"

theorem ofText?_stopText : Request.ofText? stopText = some (.stopTransaction
    { idTag := none, meterStop := 9, timestamp := .epoch, transactionId := 7, reason := none,
      transactionData := none }) := by
  decide +kernel

theorem limit_of_freed_depotAndHarbor :
    let l := (depotAndHarbor.receive .epoch 1 stopText).plant.ledger
    l.registry.connector? "north" 1 = some { id := 1, status := .charging, limit := 0 } ∧
      l.database.connector? "north" 1 = some { id := 1, status := .charging, limit := 0 } := by
  have hnew : ({} : Switchboard).Sound := ⟨nofun, nofun⟩
  obtain ⟨t, hrecord, ht⟩ : ∃ t, depotAndHarbor.plant.ledger.record? 7 = some t ∧
      decide (t.isFinished = false ∧ t.id = 7 ∧ t.chargePoint = "north" ∧ t.connector = 1) = true :=
    (Option.any_eq_true _ _).1 (by decide +kernel)
  obtain ⟨ho, hid, hs, hi⟩ := of_decide_eq_true ht
  obtain ⟨limit, hreg, hdb, -, -, hown⟩ := limit_of_freed ((hnew.connect "north").connect "west")
    (by decide +kernel) keyed_depotAndHarbor rfl
    (show depotAndHarbor.plant.switchboard.connection? 1 = some { id := 1, station := "north" } by
      decide +kernel) rfl .epoch ofText?_stopText hrecord ho
    (show _ = some { id := 1, status := .charging, transaction := 7, limit := 32 } by
      rw [hs, hi]; decide +kernel) hid.symm
  rw [hs, hi] at hreg hdb
  obtain rfl : limit = 0 := hown ⟨"depot", "Depot", 32, 64, ["north"]⟩
    (by rw [hs]; decide +kernel) (by rw [hs]; decide +kernel) (.inl hs.symm)
  exact ⟨hreg, hdb⟩

/-- The west stops the transaction of the north, which is idle then and keeps its limit. -/
theorem freed_by_stranger_keeps_limit :
    let l := (depotAndHarbor.receive .epoch 2 stopText).plant.ledger
    l.registry.connector? "north" 1 = some { id := 1, status := .charging, limit := 32 } ∧
      l.database.connector? "north" 1 = some { id := 1, status := .charging, limit := 32 } ∧
      l.database.isSmart "north" = true ∧ (l.database.locationOf? "north").isSome = true := by
  decide +kernel

end Hub

end CentralSystem
