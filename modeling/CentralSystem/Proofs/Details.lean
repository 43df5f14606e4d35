import CentralSystem.Proofs.Posting

namespace CentralSystem

inductive Detail where
  | vendor
  | model
  | serialNumber
  | firmwareVersion
  | status
  | errorCode
  | firmwareStatus
  | diagnosticsStatus
deriving DecidableEq

def Request.detail? : Request → Detail → Option String
  | bootNotification r, .vendor => some r.chargePointVendor
  | bootNotification r, .model => some r.chargePointModel
  | bootNotification r, .serialNumber => r.chargePointSerialNumber
  | bootNotification r, .firmwareVersion => r.firmwareVersion
  | statusNotification r, .status => if r.connectorId = 0 then some r.status.name else none
  | statusNotification r, .errorCode => if r.connectorId = 0 then some r.errorCode.name else none
  | firmwareStatusNotification r, .firmwareStatus => some r.status.name
  | diagnosticsStatusNotification r, .diagnosticsStatus => some r.status.name
  | _, _ => none

namespace ChargePoint

variable (cp : ChargePoint)

def detail : Detail → Option String
  | .vendor => some cp.vendor
  | .model => some cp.model
  | .serialNumber => cp.serialNumber
  | .firmwareVersion => cp.firmwareVersion
  | .status => some cp.status
  | .errorCode => some cp.errorCode
  | .firmwareStatus => cp.firmwareStatus
  | .diagnosticsStatus => cp.diagnosticsStatus

theorem detail_unseen (d : Detail) : cp.unseen.detail d = cp.detail d := by
  cases d <;> rfl

def heed : Request → ChargePoint
  | .bootNotification r => cp.identify r.chargePointVendor r.chargePointModel
      r.chargePointSerialNumber r.firmwareVersion
  | .statusNotification r =>
    if r.connectorId = 0 then { cp with status := r.status.name, errorCode := r.errorCode.name }
    else cp
  | .firmwareStatusNotification r => { cp with firmwareStatus := some r.status.name }
  | .diagnosticsStatusNotification r => { cp with diagnosticsStatus := some r.status.name }
  | _ => cp

theorem detail_heed (r : Request) (d : Detail) :
    (cp.heed r).detail d = (r.detail? d).or (cp.detail d) := by
  cases r with
  | bootNotification r =>
    cases d with
    | serialNumber => exact Option.orElse_eq_or ..
    | firmwareVersion => exact Option.orElse_eq_or ..
    | _ => rfl
  | statusNotification r =>
    by_cases h : r.connectorId = 0 <;> cases d <;> simp [heed, Request.detail?, detail, h]
  | _ => cases d <;> rfl

def basics : Bool × Option String × Bool := (cp.enabled, cp.location, cp.smartCharging)

theorem basics_heed (r : Request) : (cp.heed r).basics = cp.basics := by
  cases r with
  | statusNotification r =>
    unfold heed
    dsimp only
    split <;> rfl
  | _ => rfl

/-- The last word on a detail holds. -/
theorem detail_foldl_heed (rs : List Request) (d : Detail) :
    (rs.foldl heed cp).detail d = (rs.filterMap (·.detail? d)).getLast?.or (cp.detail d) := by
  induction rs using List.reverseRecOn with
  | nil => rfl
  | append_singleton rs r ih =>
    rw [List.foldl_concat, detail_heed, ih, List.filterMap_append, List.getLast?_append,
      Option.or_assoc]
    cases hr : r.detail? d <;> simp [hr]

theorem basics_foldl_heed (rs : List Request) : (rs.foldl heed cp).basics = cp.basics := by
  induction rs generalizing cp with
  | nil => rfl
  | cons r rest ih => exact (ih _).trans (cp.basics_heed r)

end ChargePoint

namespace Entry

theorem change_seat {e : Entry} {cp : ChargePoint} (he : e = .see cp ∨ e = .amend cp) (s : String)
    (x : Option ChargePoint) :
    e.change (.seat s) x = if s = cp.id then x.map fun _ => cp else x := by
  rcases he with rfl | rfl
  · rw [change_eq_ite (q := s = cp.id) (by simp [places])]
    rfl
  · rw [change_eq_ite (q := s = cp.id) (by simp [places])]
    rfl

end Entry

namespace Ledger

variable {settings : Settings} {now : Timestamp} {l : Ledger} {station : String}

/-- Whether what a charge point says is taken note of: it is in store, or is taken up now. -/
def hears (settings : Settings) (l : Ledger) (station : String) : Request → Bool
  | .bootNotification _ => l.registry.knows station || settings.autoRegisterChargePoints
  | _ => l.registry.knows station

/-- A charge point as it is in store, or as it would be taken up, but for when it was last seen. -/
def profile (l : Ledger) (station : String) : ChargePoint :=
  ((l.registry.chargePoint? station).map ChargePoint.unseen).getD { id := station }

theorem profile_postAll (l : Ledger) (es : List Entry) (s : String) :
    (l.postAll es).profile s =
      ((Entry.changeAll es (.seat s) (l.registry.chargePoint? s)).map ChargePoint.unseen).getD
        { id := s } := by
  have hseat : (l.postAll es).registry.chargePoint? s =
      Entry.changeAll es (.seat s) (l.registry.chargePoint? s) := content_postAll l es (.seat s)
  rw [profile, hseat]

theorem profile_of_content {l' : Ledger} {s : String}
    (h : l'.content (.seat s) = l.content (.seat s)) : l'.profile s = l.profile s :=
  congrArg (fun x : Option ChargePoint => (x.map ChargePoint.unseen).getD { id := s }) h

theorem profile_of_books {l' : Ledger} (h : l'.books = l.books) (s : String) :
    l'.profile s = l.profile s :=
  profile_of_content (by rw [← content_books, h, content_books])

theorem changeAll_seat (hk : l.Keyed) {entry : ChargePoint → Entry}
    {change : ChargePoint → ChargePoint}
    (he : ∀ cp, entry cp = .see (change cp) ∨ entry cp = .amend (change cp))
    (hid : ∀ cp, (change cp).id = cp.id) (s : String) :
    Entry.changeAll ((l.registry.chargePoint? station).toList.map entry) (.seat s)
        (l.registry.chargePoint? s) =
      if s = station then (l.registry.chargePoint? s).map change
      else l.registry.chargePoint? s := by
  cases hcp : l.registry.chargePoint? station with
  | none =>
    by_cases hs : s = station
    · rw [if_pos hs, hs, hcp]
      rfl
    · rw [if_neg hs]
      rfl
  | some cp =>
    have hstation : (change cp).id = station := (hid cp).trans (hk.1.chargePoint station cp hcp)
    refine (Entry.change_seat (he cp) s _).trans ?_
    rw [hstation]
    by_cases hs : s = station
    · rw [if_pos hs, if_pos hs, hs, hcp]
      rfl
    · rw [if_neg hs, if_neg hs]

theorem profile_of_changed (station : String) (entry : ChargePoint → Entry) (hk : l.Keyed)
    {r : Request} {change : ChargePoint → ChargePoint}
    (he : ∀ cp, entry cp = .see (change cp) ∨ entry cp = .amend (change cp))
    (hid : ∀ cp, (change cp).id = cp.id) (hheed : ∀ cp, (change cp).unseen = cp.unseen.heed r)
    (s : String) :
    (l.postAll ((l.registry.chargePoint? station).toList.map entry)).profile s =
      if s = station ∧ l.registry.knows station = true then (l.profile s).heed r
      else l.profile s := by
  rw [profile_postAll, changeAll_seat hk he hid, profile, knows_eq_isSome]
  by_cases hs : s = station
  · subst hs
    cases l.registry.chargePoint? s with
    | none => simp
    | some cp => simpa using hheed cp
  · simp [hs]

theorem profile_of_not_mem {es : List Entry} {s : String} (h : ∀ e ∈ es, .seat s ∉ e.places) :
    (l.postAll es).profile s = l.profile s := by
  rw [profile_postAll, Entry.changeAll_of_not_mem h, profile]

theorem profile_boot (hk : l.Keyed) (r : Request.BootNotification) (s : String) :
    (l.postAll ((l.glance settings station (.bootNotification r)).boot settings now station
        r).2).profile s =
      if s = station ∧ l.hears settings station (.bootNotification r) = true
      then (l.profile s).heed (.bootNotification r) else l.profile s := by
  let change (cp : ChargePoint) : ChargePoint := (cp.identify r.chargePointVendor
    r.chargePointModel r.chargePointSerialNumber r.firmwareVersion).touch now
  have hentry (cp : ChargePoint) : Glance.identification now cp r = .see (change cp) ∨
      Glance.identification now cp r = .amend (change cp) := by
    unfold Glance.identification
    dsimp only
    split
    · exact .inl rfl
    · exact .inr rfl
  simp only [Glance.boot, glance, hears, knows_eq_isSome]
  cases hcp : l.registry.chargePoint? station with
  | some cp =>
    have hchanged := profile_of_changed station (Glance.identification now · r) hk
      (r := .bootNotification r) hentry (fun _ => rfl) (fun _ => rfl) s
    simpa [hcp, knows_eq_isSome] using hchanged
  | none =>
    cases settings.autoRegisterChargePoints with
    | false => simp [postAll]
    | true =>
      have hseat : Entry.changeAll
          [.enroll station, Glance.identification now { id := station } r] (.seat s)
          (l.registry.chargePoint? s) =
          if s = station then some (change { id := station }) else l.registry.chargePoint? s := by
        have henroll : (Entry.enroll station).change (.seat s) (l.registry.chargePoint? s) =
            if s = station then some { id := station } else l.registry.chargePoint? s := by
          rw [Entry.change_eq_ite (q := s = station) (by simp [Entry.places])]
          by_cases hs : s = station
          · simp only [hs, Entry.write, hcp, Option.none_or]
          · simp only [hs, ↓reduceIte]
        rw [Entry.changeAll_cons, henroll]
        refine (Entry.change_seat (hentry _) s _).trans ?_
        by_cases hs : s = station
        · simp [hs, change, ChargePoint.touch, ChargePoint.identify]
        · simp [hs, change, ChargePoint.touch, ChargePoint.identify]
      simp only [↓reduceIte, profile_postAll, hseat, Option.isSome_none, Bool.false_or, and_true]
      by_cases hs : s = station
      · subst hs
        simp only [↓reduceIte, profile, hcp]
        rfl
      · simp only [hs, ↓reduceIte, profile]

theorem seat_not_mem_provision (settings : Settings) (idTag s : String) :
    ∀ e ∈ Glance.provision settings idTag, .seat s ∉ e.places := by
  intro e he
  obtain rfl := Glance.mem_provision he
  simp [Entry.places]

theorem seat_not_mem_start {g : Glance} {r : Request.StartTransaction} {s : String} :
    ∀ e ∈ (g.start settings station r).2, .seat s ∉ e.places := by
  intro e he
  rcases Glance.mem_start he with he | ⟨_, _, rfl⟩ | ⟨_, rfl⟩ | ⟨_, rfl⟩
  · exact seat_not_mem_provision settings r.idTag s e he
  all_goals simp [Entry.places]

theorem seat_not_mem_stop {g : Glance} {r : Request.StopTransaction} {s : String} :
    ∀ e ∈ g.stop r, .seat s ∉ e.places := by
  intro e he
  rcases Glance.mem_stop he with ⟨_, _, rfl⟩ | ⟨_, rfl⟩ | ⟨_, rfl⟩ <;> simp [Entry.places]

theorem profile_outcome (hk : l.Keyed) (r : Request) (s : String) :
    (l.postAll ((l.glance settings station r).outcome settings now station r).2).profile s =
      if s = station ∧ l.hears settings station r = true then (l.profile s).heed r
      else l.profile s := by
  have hkept {es : List Entry} (hes : ∀ e ∈ es, .seat s ∉ e.places)
      (hr : (l.profile s).heed r = l.profile s) : (l.postAll es).profile s =
        if s = station ∧ l.hears settings station r = true then (l.profile s).heed r
        else l.profile s := by
    rw [profile_of_not_mem hes, hr, ite_self]
  have hamended (change : ChargePoint → ChargePoint) (hid : ∀ cp, (change cp).id = cp.id)
      (hheed : ∀ cp, (change cp).unseen = cp.unseen.heed r) :=
    profile_of_changed station (fun cp => .amend (change cp)) hk (fun _ => .inr rfl) hid hheed s
  cases r with
  | bootNotification r => exact profile_boot hk r s
  | authorize r =>
    refine hkept ?_ rfl
    simp only [Glance.outcome, Glance.authorize]
    split
    · simp
    · exact seat_not_mem_provision settings r.idTag s
  | heartbeat r =>
    exact profile_of_changed station (fun cp => .see (cp.touch now)) hk (fun _ => .inl rfl)
      (fun _ => rfl) (fun _ => rfl) s
  | startTransaction r => exact hkept seat_not_mem_start rfl
  | stopTransaction r => exact hkept seat_not_mem_stop rfl
  | meterValues r => exact hkept (by simp [Glance.outcome, Entry.places]) rfl
  | statusNotification r =>
    simp only [Glance.outcome, Glance.reportStatus]
    by_cases hid : r.connectorId = 0
    · rw [if_pos (.inl hid)]
      exact hamended (fun cp => { cp with
          status := r.status.name
          errorCode := r.errorCode.name
          lastSeen := some now })
        (fun _ => rfl) fun cp => (if_pos hid).symm
    · have hsame : (l.profile s).heed (.statusNotification r) = l.profile s := if_neg hid
      split
      · next h =>
        have hnone : (l.glance settings station (.statusNotification r)).chargePoint = none :=
          Option.isNone_iff_eq_none.1 (h.resolve_left hid)
        rw [hnone]
        exact hkept (by simp) hsame
      · refine hkept (fun e he => ?_) hsame
        rcases List.mem_cons.1 he with rfl | he
        · simp [Entry.places]
        · obtain ⟨t, -, rfl⟩ := List.mem_map.1 he
          simp [Entry.places]
  | dataTransfer r => exact hkept (by simp [Glance.outcome]) rfl
  | diagnosticsStatusNotification r =>
    exact hamended (fun cp => { cp with diagnosticsStatus := some r.status.name })
      (fun _ => rfl) fun _ => rfl
  | firmwareStatusNotification r =>
    exact hamended (fun cp => { cp with firmwareStatus := some r.status.name })
      (fun _ => rfl) fun _ => rfl

end Ledger

namespace Hub

variable {h : Hub}

def heardIn (h : Hub) (s : String) : HandlerStep → List Request
  | .answer station r =>
    if s = station ∧ h.plant.ledger.hears h.settings station r = true then [r] else []
  | _ => []

def heard (h : Hub) (s : String) : List (Timestamp × HandlerStep) → List Request
  | [] => []
  | (now, w) :: rest => h.heardIn s w ++ (h.handlerStep now w).2.heard s rest

section Whole

variable (hw : h.plant.ledger.storage.broken = [])
include hw

variable (hk : h.plant.ledger.Keyed)
include hk

theorem profile_handlerStep (now : Timestamp) (w : HandlerStep) (s : String) :
    (h.handlerStep now w).2.plant.ledger.profile s =
      (h.heardIn s w).foldl ChargePoint.heed (h.plant.ledger.profile s) := by
  cases w with
  | answer station r =>
    have hcomes : Ledger.ComesTo h.plant.ledger
        (h.plant.ledger.answer h.settings now station r) _ :=
      Ledger.answer_eq now station hw hk r
    refine (Ledger.profile_of_books hcomes.2 s).trans ((Ledger.profile_outcome hk r s).trans ?_)
    rw [heardIn]
    split <;> rfl
  | followUp station r => exact Ledger.profile_of_content (content_followUp hw rfl now station r)
  | balance station => exact Ledger.profile_of_content (content_balance hw rfl now station)

theorem profile_runHandlers (ws : List (Timestamp × HandlerStep)) (s : String) :
    (h.runHandlers ws).2.plant.ledger.profile s =
      (h.heard s ws).foldl ChargePoint.heed (h.plant.ledger.profile s) := by
  induction ws generalizing h with
  | nil => rfl
  | cons w rest ih =>
    obtain ⟨hw', hk'⟩ := whole_handlerStep w.1 hw hk w.2
    have hrest := ih hw' hk'
    rw [heard, List.foldl_append, ← profile_handlerStep hw hk w.1 w.2 s]
    exact hrest

end Whole

end Hub

/-- Whatever charge points say in whatever order: each one in store has every detail as it said it
last while it was in store, or as it was at first if it never did. What it does not tell of itself
stays as it was, and what is on record is the same. -/
theorem last_word_runHandlers {db : Database} (hk : db.Keyed) (settings : Settings) (seed : Nat) :
    ∃ h, Hub.start settings { database := db } seed = .ok h ∧ ∀ ws s cp,
      (h.runHandlers ws).2.plant.ledger.registry.chargePoint? s = some cp →
        let first := (db.chargePoints.get? s).getD { id := s }
        let told := h.heard s ws
        (∀ d, cp.detail d = (told.filterMap (·.detail? d)).getLast?.or (first.detail d)) ∧
        cp.enabled = first.enabled ∧ cp.location = first.location ∧
        cp.smartCharging = first.smartCharging ∧
        ∃ record, (h.runHandlers ws).2.plant.ledger.database.chargePoints.get? s = some record ∧
          record.unseen = cp.unseen := by
  obtain ⟨l, hl, hstorage, hloads⟩ := Ledger.load_ok hk
  have hdb : l.database = db := congrArg Storage.database hstorage
  refine ⟨_, Hub.start_eq settings seed hl, ?_⟩
  generalize hh : Hub.mk settings _ _ = h
  obtain rfl : h.plant.ledger = l := hh ▸ rfl
  intro ws s cp hcp first told
  have hw : h.plant.ledger.storage.broken = [] := by rw [hstorage]
  have hkl : h.plant.ledger.Keyed := ⟨hloads.keyed hk, hdb ▸ hk⟩
  have hfirst : h.plant.ledger.profile s = first.unseen := by
    rw [Ledger.profile, hloads.tracks s]
    cases hs : db.chargePoints.get? s <;> simp only [first, hs] <;> rfl
  have hlast : cp.unseen = told.foldl ChargePoint.heed first.unseen := by
    rw [← hfirst, ← Hub.profile_runHandlers hw hkl ws s, Ledger.profile, hcp]
    rfl
  have hbasics : cp.basics = first.basics :=
    (congrArg ChargePoint.basics hlast).trans (ChargePoint.basics_foldl_heed _ told)
  have htracks := ((Hub.changes_runHandlers hw hkl ws).tracks hkl (hdb ▸ hloads.tracks)).1
  obtain ⟨record, hrecord, hsame⟩ := htracks.exists_of_chargePoint hcp
  refine ⟨fun d => ?_, congrArg (·.1) hbasics, congrArg (·.2.1) hbasics,
    congrArg (·.2.2) hbasics, record, hrecord, hsame⟩
  rw [← cp.detail_unseen, hlast, ChargePoint.detail_foldl_heed, first.detail_unseen]

def HandlerStep.introductions : List (Timestamp × HandlerStep) :=
  let boot (model : String) (serialNumber : Option String) : Request := .bootNotification
    { chargeBoxSerialNumber := none, chargePointModel := model,
      chargePointSerialNumber := serialNumber, chargePointVendor := "vendor",
      firmwareVersion := none, iccid := none, imsi := none, meterSerialNumber := none,
      meterType := none }
  let fault : Request := .statusNotification
    { connectorId := 0, errorCode := .groundFailure, info := none, status := .faulted,
      timestamp := none, vendorId := none, vendorErrorCode := none }
  [.answer "north" (boot "first" (some "7")), .answer "east" fault, .answer "north" fault,
    .answer "east" (boot "other" none), .answer "north" (boot "second" none)].map (.epoch, ·)

theorem last_word_runHandlers_depot :
    let run := Hub.idleDepot.runHandlers HandlerStep.introductions
    Database.depot.Keyed ∧
      Hub.start Hub.depot.settings { database := .depot } 0 = .ok .idleDepot ∧
      (∃ cp, run.2.plant.ledger.registry.chargePoint? "north" = some cp ∧
        cp.model = "second" ∧ cp.serialNumber = some "7" ∧ cp.status = "Faulted") ∧
      ∃ cp, run.2.plant.ledger.registry.chargePoint? "east" = some cp ∧
        cp.model = "other" ∧ cp.serialNumber = none ∧ cp.status = "Unavailable" := by
  intro run
  obtain ⟨h, hstart, hrun⟩ := last_word_runHandlers Database.keyed_depot Hub.depot.settings 0
  obtain rfl : Hub.idleDepot = h := Except.ok.inj (Hub.start_depot.symm.trans hstart)
  refine ⟨Database.keyed_depot, Hub.start_depot, ?_, ?_⟩
  · obtain ⟨cp, hcp⟩ : ∃ cp, run.2.plant.ledger.registry.chargePoint? "north" = some cp :=
      Option.isSome_iff_exists.1 (by decide +kernel)
    obtain ⟨hdetail, -⟩ := hrun HandlerStep.introductions "north" cp hcp
    exact ⟨cp, hcp, Option.some.inj ((hdetail .model).trans (by decide +kernel)),
      (hdetail .serialNumber).trans (by decide +kernel),
      Option.some.inj ((hdetail .status).trans (by decide +kernel))⟩
  · obtain ⟨cp, hcp⟩ : ∃ cp, run.2.plant.ledger.registry.chargePoint? "east" = some cp :=
      Option.isSome_iff_exists.1 (by decide +kernel)
    obtain ⟨hdetail, -⟩ := hrun HandlerStep.introductions "east" cp hcp
    exact ⟨cp, hcp, Option.some.inj ((hdetail .model).trans (by decide +kernel)),
      (hdetail .serialNumber).trans (by decide +kernel),
      Option.some.inj ((hdetail .status).trans (by decide +kernel))⟩

end CentralSystem
