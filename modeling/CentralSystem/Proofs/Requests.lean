import CentralSystem.Proofs.Allotment
import CentralSystem.Proofs.Errands
import CentralSystem.Proofs.Ledger.Outcome

namespace CentralSystem

def Database.SharesSite (db : Database) (station other : String) : Prop :=
  ∃ location, db.locationOf? station = some location ∧ db.Belongs other location.id

namespace Database.SameSites

variable {db db' : Database} (h : db.SameSites db')
include h

theorem symm : db'.SameSites db :=
  ⟨fun s => (h.named s).symm, fun s => (h.smart s).symm, h.locations.symm⟩

theorem sharesSite_iff (station other : String) :
    db'.SharesSite station other ↔ db.SharesSite station other := by
  rw [SharesSite, SharesSite, h.locationOf?_eq]
  exact exists_congr fun location => and_congr_right fun _ => h.belongs_iff other location.id

end Database.SameSites

namespace Plant

variable {l : Ledger}

def Assignment.entry (a : Assignment) : Entry := .limit a.1.1 a.1.2 a.2

/-- The limits that are posted when a charge point asks for a sharing of power. -/
def limits (tiers : PowerTiers) (l : Ledger) (station : String) : List Entry :=
  (l.database.locationOf? station).elim [] fun location =>
    (plan tiers l location station).map Assignment.entry

def grants (tiers : PowerTiers) (l : Ledger) (station : String) : Option (List Grant) :=
  (l.database.locationOf? station).elim (some []) fun location =>
    announced tiers (smartConnectors l (site l location station))

theorem books_assign (hw : l.storage.broken = []) (as : List Assignment) :
    (assign l as).books = (l.postAll (as.map Assignment.entry)).books := by
  induction as generalizing l with
  | nil => rfl
  | cons a rest ih =>
    have hfirst : (setLimit l a.1.1 a.1.2 a.2).books = (l.postAll [a.entry]).books :=
      Ledger.books_of_quiet (quiet_setLimit hw a.1.1 a.1.2 a.2)
    exact Ledger.books_trans hfirst (ih ((Ledger.broken_of_books hfirst).trans hw))

theorem books_shared (hw : l.storage.broken = []) (tiers : PowerTiers) (station : String) :
    (shared tiers l station).books = (l.postAll (limits tiers l station)).books := by
  unfold shared limits
  cases l.database.locationOf? station with
  | none => rfl
  | some location => exact books_assign hw _

theorem switchboard_checkPowerLimit_eq {p : Plant} (hw : p.ledger.storage.broken = [])
    (tiers : PowerTiers) (now : Timestamp) (station : String) :
    ∃ q, p.checkPowerLimit tiers now station = .ok (grants tiers p.ledger station, q) ∧
      q.switchboard = p.switchboard.giveAll
        (((grants tiers p.ledger station).getD []).filterMap (·.errand? now)) := by
  have hsent {gs : Option (List Grant)} {q : Plant}
      (hq : p.checkPowerLimit tiers now station = .ok (gs, q))
      (hgs : gs = grants tiers p.ledger station) :
      ∃ q, p.checkPowerLimit tiers now station = .ok (grants tiers p.ledger station, q) ∧
        q.switchboard = p.switchboard.giveAll
          (((grants tiers p.ledger station).getD []).filterMap (·.errand? now)) := by
    subst hgs
    exact ⟨q, hq, switchboard_checkPowerLimit hq⟩
  cases hl : p.ledger.database.locationOf? station with
  | none =>
    obtain ⟨q, hq, -⟩ := checkPowerLimit_of_none hw hl tiers now
    exact hsent hq (by rw [grants, hl]; rfl)
  | some location =>
    have hq := checkPowerLimit_of_some hw hl tiers now
    exact hsent hq ((shareOut_fst ..).trans (by rw [grants, hl]; rfl))

end Plant

namespace Ledger

variable (settings : Settings) (l : Ledger) (station : String)

/-- The entries that the follow-up to a request posts. -/
def limits (r : Request) : List Entry :=
  if r.sharesPower then settings.tiers.elim [] fun tiers => Plant.limits tiers l station else []

/-- The errands that the follow-up to a request gives rise to. -/
def errands (now : Timestamp) : Request → List Errand
  | .bootNotification _ =>
    if settings.tiers.isSome && l.registry.knows station then
      (l.database.locationOf? station).toList.map fun location =>
        (station, location.defaultProfile now)
    else []
  | r =>
    if r.sharesPower then
      settings.tiers.elim [] fun tiers =>
        ((Plant.grants tiers l station).getD []).filterMap (·.errand? now)
    else []

theorem limits_books (r : Request) :
    l.books.limits settings station r = l.limits settings station r :=
  rfl

theorem errands_books (now : Timestamp) (r : Request) :
    l.books.errands settings station now r = l.errands settings station now r :=
  rfl

variable {settings l station}

theorem mem_limits {r : Request} {e : Entry} (he : e ∈ l.limits settings station r) :
    ∃ location, l.database.locationOf? station = some location ∧ ∃ a : Plant.Assignment,
      a.1 ∈ Plant.smartConnectors l (Plant.site l location station) ∧ e = a.entry := by
  unfold limits at he
  split at he
  · cases ht : settings.tiers with
    | none => simp [ht] at he
    | some tiers =>
      rw [ht, Option.elim_some, Plant.limits] at he
      cases hl : l.database.locationOf? station with
      | none => simp [hl] at he
      | some location =>
        rw [hl] at he
        obtain ⟨a, ha, rfl⟩ := List.mem_map.1 he
        exact ⟨location, rfl, a, (Plant.mem_of_mem_assignments ha).1, rfl⟩
  · cases he

theorem to_of_mem_errands (hk : l.Keyed) {now : Timestamp} {r : Request} {e : Errand}
    (he : e ∈ l.errands settings station now r) :
    e.1 = station ∨ l.database.SharesSite station e.1 := by
  have hgrants (he : e ∈ settings.tiers.elim [] fun tiers =>
      ((Plant.grants tiers l station).getD []).filterMap (·.errand? now)) :
      l.database.SharesSite station e.1 := by
    cases ht : settings.tiers with
    | none => simp [ht] at he
    | some tiers =>
      rw [ht, Option.elim_some] at he
      obtain ⟨g, hg, he⟩ := List.mem_filterMap.1 he
      unfold Plant.grants at hg
      cases hl : l.database.locationOf? station with
      | none => simp [hl] at hg
      | some location =>
        rw [hl] at hg
        obtain ⟨-, a, ha, rfl⟩ := Plant.mem_announced.1 hg
        obtain ⟨c, -, rfl⟩ := Option.map_eq_some_iff.1 he
        exact ⟨location, hl,
          belongs_of_mem hk hl (Plant.mem_of_mem_assignments (List.mem_append_right _ ha)).1⟩
  cases r with
  | bootNotification r =>
    cases hknown : settings.tiers.isSome && l.registry.knows station with
    | false => simp [errands, hknown] at he
    | true =>
      simp only [errands, hknown, ↓reduceIte] at he
      obtain ⟨location, -, rfl⟩ := List.mem_map.1 he
      exact .inl rfl
  | startTransaction r | stopTransaction r | statusNotification r => exact .inr (hgrants he)
  | _ => cases he

end Ledger

namespace Hub

variable {h : Hub} (hw : h.plant.ledger.storage.broken = []) (now : Timestamp) (station : String)

section Whole

include hw

theorem books_followUp (r : Request) : (h.followUp now station r).plant.ledger.books =
    (h.plant.ledger.postAll (h.plant.ledger.limits h.settings station r)).books := by
  unfold Ledger.limits
  cases ht : h.settings.tiers with
  | none =>
    rw [followUp_of_tiers_eq_none now ht]
    simp [Ledger.postAll]
  | some tiers =>
    rw [Ledger.books_of_quiet (quiet_followUp hw ht now station r)]
    split
    · exact Plant.books_shared hw tiers station
    · rfl

theorem switchboard_followUp (r : Request) : (h.followUp now station r).plant.switchboard =
    h.plant.switchboard.giveAll (h.plant.ledger.errands h.settings station now r) := by
  cases ht : h.settings.tiers with
  | none =>
    rw [followUp_of_tiers_eq_none now ht]
    cases r <;> simp [Ledger.errands, ht, Switchboard.giveAll]
  | some tiers =>
    have hshares (hr : r.sharesPower = true) (he : h.plant.ledger.errands h.settings station now r =
        ((Plant.grants tiers h.plant.ledger station).getD []).filterMap (·.errand? now)) :
        (h.followUp now station r).plant.switchboard =
          h.plant.switchboard.giveAll (h.plant.ledger.errands h.settings station now r) := by
      obtain ⟨q, hq, hs⟩ := Plant.switchboard_checkPowerLimit_eq hw tiers now station
      rw [followUp_of_sharesPower ht hr hq, he]
      exact hs
    cases r with
    | startTransaction r | stopTransaction r | statusNotification r =>
      exact hshares rfl (by simp [Ledger.errands, Request.sharesPower, ht])
    | bootNotification r =>
      simp only [followUp, ht, Ledger.errands, Option.isSome_some, Bool.true_and]
      cases h.plant.ledger.registry.knows station with
      | false => rfl
      | true =>
        cases hl : h.plant.ledger.database.locationOf? station with
        | none =>
          obtain ⟨q, hq, -, hs⟩ := Plant.applyDefault_of_none hw hl now
          simp only [↓reduceIte, hq]
          exact hs
        | some location =>
          simp only [↓reduceIte, Plant.applyDefault_of_some hw hl now]
          exact Plant.switchboard_command ..
    | _ => simp [followUp, ht, Ledger.errands, Request.sharesPower, Switchboard.giveAll]

end Whole

def process (h : Hub) (now later : Timestamp) (station : String) (r : Request) : Response × Hub :=
  ((h.handle now station r).1, (h.handle now station r).2.followUp later station r)

theorem run_process (h : Hub) (now later : Timestamp) (station : String) (r : Request) :
    h.runHandlers [(now, .answer station r), (later, .followUp station r)] =
      ([(h.process now later station r).1], (h.process now later station r).2) := rfl

theorem settings_process (h : Hub) (now later : Timestamp) (station : String) (r : Request) :
    (h.process now later station r).2.settings = h.settings :=
  settings_followUp ..

end Hub

/-- What a request comes to at a hub: its response, all entries that are posted, and the errands. -/
structure Effect where
  response : Response
  entries : List Entry
  errands : List Errand

namespace Ledger

/-- What a request comes to, with its follow-up. -/
def effect (settings : Settings) (now later : Timestamp) (l : Ledger) (station : String)
    (r : Request) : Effect :=
  let outcome := (l.glance settings station r).outcome settings now station r
  let answered := l.postAll outcome.2
  { response := outcome.1
    entries := outcome.2 ++ answered.limits settings station r
    errands := answered.errands settings station later r }

variable {settings : Settings} {now later : Timestamp} {l : Ledger} {station : String}
  {r : Request}

theorem mem_entries_cases {e : Entry}
    (he : e ∈ (l.effect settings now later station r).entries) :
    e ∈ ((l.glance settings station r).outcome settings now station r).2 ∨
      ∃ s c amps, e = .limit s c amps := by
  refine (List.mem_append.1 he).imp_right fun he => ?_
  obtain ⟨_, -, a, -, rfl⟩ := mem_limits he
  exact ⟨a.1.1, a.1.2, a.2, rfl⟩

end Ledger

namespace Hub

variable {h : Hub} (hw : h.plant.ledger.storage.broken = [])
include hw

theorem process_eq (hk : h.plant.ledger.Keyed) (now later : Timestamp) (station : String)
    (r : Request) :
    let effect := h.plant.ledger.effect h.settings now later station r
    (h.process now later station r).1 = effect.response ∧
      (h.process now later station r).2.plant.ledger.books =
        (h.plant.ledger.postAll effect.entries).books ∧
      (h.process now later station r).2.plant.switchboard =
        h.plant.switchboard.giveAll effect.errands := by
  obtain ⟨hresponse, hbooks⟩ : Ledger.ComesTo h.plant.ledger
      (h.plant.ledger.answer h.settings now station r) _ := Ledger.answer_eq now station hw hk r
  have hmid : (h.handle now station r).2.plant.ledger.books =
      (h.plant.ledger.postAll ((h.plant.ledger.glance h.settings station r).outcome h.settings now
        station r).2).books := hbooks
  have hw' : (h.handle now station r).2.plant.ledger.storage.broken = [] :=
    (Ledger.broken_of_books hmid).trans hw
  have hfollow := books_followUp hw' later station r
  rw [← Ledger.limits_books, hmid, Ledger.limits_books] at hfollow
  have hsent := switchboard_followUp hw' later station r
  rw [← Ledger.errands_books, hmid, Ledger.errands_books] at hsent
  exact ⟨hresponse, Ledger.books_trans hmid hfollow, hsent⟩

theorem highestId_lt_of_opened (hk : h.plant.ledger.Keyed) {now later : Timestamp} {station : String}
    {r : Request} (hn : h.plant.ledger.database.highestId +
      (h.process now later station r).1.opened ≤ 2 ^ 31 - 1)
    (ho : (h.plant.ledger.effect h.settings now later station r).response.opened = 1) :
    h.plant.ledger.database.highestId < 2 ^ 31 - 1 := by
  obtain ⟨hresponse, -⟩ := process_eq hw hk now later station r
  rw [hresponse, ho] at hn
  omega

theorem changes_process (hb : h.plant.ledger.registry.Backed h.plant.ledger.database)
    (now later : Timestamp) (station : String) (r : Request) :
    Changes h.settings true (h.process now later station r).1.opened h.plant.ledger.quiet
      (h.process now later station r).2.plant.ledger.quiet := by
  have hrun := changes_runHandlers hw (Ledger.keyed_of_backed hb)
    [(now, .answer station r), (later, .followUp station r)]
  rw [run_process] at hrun
  simpa [opened] using hrun

end Hub

end CentralSystem
