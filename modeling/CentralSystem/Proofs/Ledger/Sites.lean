import CentralSystem.Proofs.Ledger.Answer

namespace CentralSystem

/-- The record of a charge point but for when it was last seen, which is not stored each time. -/
def ChargePoint.unseen (cp : ChargePoint) : ChargePoint := { cp with lastSeen := none }

namespace ChargePoint

variable {cp cp' : ChargePoint} (h : cp.unseen = cp'.unseen)
include h

theorem eq_of_unseen_eq : ∃ seen, cp' = { cp with lastSeen := seen } := by
  have hseen : { cp.unseen with lastSeen := cp'.lastSeen } = cp' := by rw [h]; rfl
  exact ⟨cp'.lastSeen, hseen.symm⟩

theorem of_unseen_eq : cp.id = cp'.id ∧ cp.location = cp'.location ∧
    cp.smartCharging = cp'.smartCharging ∧ cp.enabled = cp'.enabled := by
  obtain ⟨seen, rfl⟩ := eq_of_unseen_eq h
  exact ⟨rfl, rfl, rfl, rfl⟩

section Identify

variable (vendor model : String) (serialNumber firmwareVersion : Option String)

theorem unseen_identify : (cp.identify vendor model serialNumber firmwareVersion).unseen =
    (cp'.identify vendor model serialNumber firmwareVersion).unseen := by
  obtain ⟨seen, rfl⟩ := eq_of_unseen_eq h
  rfl

theorem identify_eq_self_iff : cp.identify vendor model serialNumber firmwareVersion = cp ↔
    cp'.identify vendor model serialNumber firmwareVersion = cp' := by
  obtain ⟨seen, rfl⟩ := eq_of_unseen_eq h
  cases cp
  simp only [identify, ChargePoint.mk.injEq]

end Identify

end ChargePoint

namespace Database

def named? (db : Database) (station : String) : Option String :=
  (db.chargePoints.get? station).bind (·.location)

/-- The location that the record of a charge point names, if there is one. -/
def locationOf? (db : Database) (station : String) : Option Location :=
  (db.named? station).bind db.locations.get?

def isSmart (db : Database) (station : String) : Bool :=
  (db.chargePoints.get? station).any (·.smartCharging)

structure SameSites (db db' : Database) : Prop where
  named : ∀ s, db'.named? s = db.named? s
  smart : ∀ s, db'.isSmart s = db.isSmart s
  locations : db'.locations = db.locations

theorem SameSites.refl (db : Database) : db.SameSites db := ⟨fun _ => rfl, fun _ => rfl, rfl⟩

theorem SameSites.trans {db db' db'' : Database} (h : db.SameSites db') (h' : db'.SameSites db'') :
    db.SameSites db'' :=
  ⟨fun s => (h'.named s).trans (h.named s), fun s => (h'.smart s).trans (h.smart s),
    h'.locations.trans h.locations⟩

theorem sameSites_addChargePoint {db : Database} {cp : ChargePoint} (hl : cp.location = none)
    (hs : cp.smartCharging = false) : db.SameSites (db.addChargePoint cp) := by
  unfold addChargePoint
  split
  · exact .refl db
  · rename_i hn
    have hnone : db.chargePoints.get? cp.id = none := by simpa [Table.contains] using hn
    refine ⟨fun s => ?_, fun s => ?_, rfl⟩
    · rw [named?, named?, putChargePoint, Table.get?_insert]
      split
      · rename_i he
        rw [he, hnone, Option.bind_some, hl, Option.bind_none]
      · rfl
    · rw [isSmart, isSmart, putChargePoint, Table.get?_insert]
      split
      · rename_i he
        rw [he, hnone, Option.any_some, hs, Option.any_none]
      · rfl

theorem sameSites_updateChargePoint {db : Database} {cp cp' : ChargePoint}
    (h : db.chargePoints.get? cp'.id = some cp) (hl : cp'.location = cp.location)
    (hs : cp'.smartCharging = cp.smartCharging) : db.SameSites (db.updateChargePoint cp') := by
  unfold updateChargePoint
  split
  · refine ⟨fun s => ?_, fun s => ?_, rfl⟩
    · rw [named?, named?, putChargePoint, Table.get?_insert]
      split
      · rename_i he
        rw [he, h, Option.bind_some, Option.bind_some, hl]
      · rfl
    · rw [isSmart, isSmart, putChargePoint, Table.get?_insert]
      split
      · rename_i he
        rw [he, h, Option.any_some, Option.any_some, hs]
      · rfl
  · exact .refl db

end Database

namespace Registry

/-- The registry has the charge points that are on record, up to when they were last seen. -/
def Tracks (r : Registry) (db : Database) : Prop :=
  ∀ s, (r.chargePoint? s).map ChargePoint.unseen =
    (db.chargePoints.get? s).map ChargePoint.unseen

namespace Tracks

variable {r : Registry} {db : Database} (h : r.Tracks db)
include h

theorem knows_eq (s : String) : r.knows s = db.chargePoints.contains s := by
  have hm := congrArg Option.isSome (h s)
  rw [Option.isSome_map, Option.isSome_map] at hm
  simpa [knows, chargePoint?, Table.contains] using hm

theorem exists_of_chargePoint {s : String} {cp : ChargePoint} (hs : r.chargePoint? s = some cp) :
    ∃ cp', db.chargePoints.get? s = some cp' ∧ cp'.unseen = cp.unseen := by
  have hm := h s
  rw [hs, Option.map_some, eq_comm, Option.map_eq_some_iff] at hm
  exact hm

theorem register {cp : ChargePoint} (hk : r.knows cp.id = false) :
    (r.register cp).Tracks (db.addChargePoint cp) := by
  have hadd : db.addChargePoint cp = db.putChargePoint cp := by
    rw [Database.addChargePoint, ← h.knows_eq, hk]
    rfl
  intro s
  rw [hadd, chargePoint?_register hk, Database.putChargePoint, Table.get?_insert]
  split
  · rfl
  · exact h s

theorem see {s : String} {cp cp' : ChargePoint} (hs : r.chargePoint? s = some cp)
    (hid : cp'.id = s) (he : cp'.unseen = cp.unseen) : (r.setChargePoint cp').Tracks db := by
  intro s'
  rw [← h, chargePoint?_setChargePoint, hid]
  split
  · rename_i hs'
    rw [hs', hs, Option.map_some, Option.map_some, Option.map_some, he]
  · rfl

theorem amend {s : String} {cp cp' : ChargePoint} (hs : r.chargePoint? s = some cp)
    (hid : cp'.id = s) : (r.setChargePoint cp').Tracks (db.updateChargePoint cp') := by
  have hupd : db.updateChargePoint cp' = db.putChargePoint cp' := by
    rw [Database.updateChargePoint, ← h.knows_eq, hid, knows_iff.2 ⟨cp, hs⟩]
    rfl
  intro s'
  rw [hupd, chargePoint?_setChargePoint, Database.putChargePoint, Table.get?_insert, hid]
  split
  · rename_i hs'
    rw [hs', hs]
    rfl
  · exact h s'

theorem congr {r' : Registry} {db' : Database} (hr : ∀ s, r'.chargePoint? s = r.chargePoint? s)
    (hc : db'.chargePoints = db.chargePoints) (hl : db'.locations = db.locations) :
    r'.Tracks db' ∧ db.SameSites db' := by
  refine ⟨fun s => ?_, fun s => ?_, fun s => ?_, hl⟩
  · rw [hr, hc]
    exact h s
  · rw [Database.named?, hc]
    rfl
  · rw [Database.isSmart, hc]
    rfl

end Tracks

end Registry

open Registry Ledger Database

theorem Change.tracks {settings : Settings} {sharing : Bool} {n : Nat} {l l' : Ledger}
    (hc : Change settings sharing n l l') (hk : l.registry.Keyed)
    (h : l.registry.Tracks l.database) :
    l'.registry.Tracks l'.database ∧ l.database.SameSites l'.database := by
  cases hc with
  | enroll hn => exact ⟨h.register hn, sameSites_addChargePoint rfl rfl⟩
  | @see _ station cp now hcp =>
    have hs : cp.id = station := hk.chargePoint _ _ hcp
    exact ⟨h.see hcp hs rfl, .refl _⟩
  | @amend _ station cp cp' hcp hid hloc hsmart =>
    have hs : cp'.id = station := hid.trans (hk.chargePoint _ _ hcp)
    obtain ⟨cp₀, hdb, he⟩ := h.exists_of_chargePoint hcp
    obtain ⟨-, hloc₀, hsmart₀, -⟩ := ChargePoint.of_unseen_eq he
    exact ⟨h.amend hcp hs, sameSites_updateChargePoint (hs ▸ hdb) (hloc.trans hloc₀.symm)
      (hsmart.trans hsmart₀.symm)⟩
  | samples samples =>
    obtain ⟨s, hs⟩ := Database.foldl_addSample samples l.database
    simp only [registry_setDatabase, database, storage_setDatabase, hs]
    exact h.congr (fun _ => rfl) rfl rfl
  | tag => exact h.congr (fun _ => rfl) rfl rfl
  | enter => exact h.congr (fun s => by simp; rfl) (by simp [database]) (by simp [database])
  | occupy => exact h.congr (fun s => by simp; rfl) (by simp [database]) (by simp [database])
  | displace => exact h.congr (fun s => by simp; rfl) (by simp [database]) (by simp [database])
  | limit _ amps => exact h.congr (chargePoint?_setConnector _ _) rfl rfl
  | _ => exact h.congr (fun s => by simp) (by simp [database]) (by simp [database])

theorem Changes.tracks {settings : Settings} {sharing : Bool} {n : Nat} {l l' : Ledger}
    (hc : Changes settings sharing n l l') (hk : l.Keyed) (h : l.registry.Tracks l.database) :
    l'.registry.Tracks l'.database ∧ l.database.SameSites l'.database := by
  induction hc with
  | refl => exact ⟨h, .refl _⟩
  | tail hs hstep ih =>
    obtain ⟨hmid, hsame⟩ := ih hk h
    obtain ⟨hlast, hsame'⟩ := hstep.tracks (hs.preserve Change.keyed hk).1 hmid
    exact ⟨hlast, hsame.trans hsame'⟩

end CentralSystem
