import CentralSystem.Proofs.Details
import CentralSystem.Proofs.Ledger.Refusal
import CentralSystem.Proofs.Posting

namespace CentralSystem

namespace Entry

theorem changeAll_tag (es : List Entry) (g : String) (x : Option UserTag) :
    changeAll es (.tag g) x = if .tag g ∈ es then x.or (some (.onFirstUse g)) else x := by
  induction es generalizing x with
  | nil => simp [changeAll]
  | cons e rest ih =>
    rw [changeAll_cons, ih]
    by_cases he : e = .tag g
    · subst he
      have hchange : (tag g).change (.tag g) x = x.or (some (.onFirstUse g)) :=
        if_pos List.mem_cons_self
      rw [if_pos List.mem_cons_self, hchange]
      split
      · rw [Option.or_assoc, Option.or_self]
      · rfl
    · rw [change_of_not_mem fun hp => he (eq_tag_of_mem_places hp)]
      simp [Ne.symm he]

end Entry

namespace Ledger

/-- Whether a request uses a tag. That of a charge point that is not known is not looked at, unless
it starts a transaction. -/
def uses (l : Ledger) (station g : String) : Request → Bool
  | .authorize r => l.registry.knows station && r.idTag == g
  | .startTransaction r => r.idTag == g
  | _ => false

variable {settings : Settings} {l : Ledger} {now : Timestamp} {station g : String}

theorem tag_mem_provision {idTag : String} : .tag g ∈ Glance.provision settings idTag ↔
    settings.autoRegisterTags = true ∧ g ≠ "" ∧ idTag = g := by
  unfold Glance.provision
  constructor
  · intro h
    split at h
    · next hon =>
      obtain rfl : g = idTag := by simpa using h
      simpa using hon
    · cases h
  · rintro ⟨hon, hne, rfl⟩
    simp [hon, hne]

theorem tag_mem_start {c : Glance} {r : Request.StartTransaction} :
    .tag g ∈ (c.start settings station r).2 ↔ .tag g ∈ Glance.provision settings r.idTag := by
  constructor
  · intro h
    rcases Glance.mem_start h with h | ⟨_, _, h⟩ | ⟨_, h⟩ | ⟨_, h⟩
    · exact h
    all_goals cases h
  · intro h
    rcases Glance.start_cases settings station c r with hs | hs | hs <;> rw [hs] <;>
      exact List.mem_append_left _ h

theorem tag_not_mem_boot {c : Glance} {r : Request.BootNotification} :
    .tag g ∉ (c.boot settings now station r).2 := by
  intro h
  rcases Glance.mem_boot h with h | ⟨_, h | h⟩ <;> cases h

theorem tag_not_mem_stop {c : Glance} {r : Request.StopTransaction} : .tag g ∉ c.stop r := by
  intro h
  rcases Glance.mem_stop h with ⟨_, _, h⟩ | ⟨_, h⟩ | ⟨_, h⟩ <;> cases h

theorem tag_not_mem_reportStatus {c : Glance} {r : Request.StatusNotification} :
    .tag g ∉ c.reportStatus now station r := by
  intro h
  rcases Glance.mem_reportStatus h with ⟨_, h⟩ | ⟨_, _, h⟩ | ⟨_, h⟩ <;> cases h

theorem tag_mem_outcome (r : Request) :
    .tag g ∈ ((l.glance settings station r).outcome settings now station r).2 ↔
      settings.autoRegisterTags = true ∧ g ≠ "" ∧ l.uses station g r = true := by
  cases r with
  | authorize r =>
    simp only [Glance.outcome, Glance.authorize, glance, uses, knows_eq_isSome, Bool.and_eq_true,
      beq_iff_eq]
    cases l.registry.chargePoint? station with
    | none => simp
    | some cp => simpa using tag_mem_provision
  | startTransaction r =>
    refine (tag_mem_start.trans tag_mem_provision).trans ?_
    simp [uses]
  | bootNotification r => exact iff_of_false tag_not_mem_boot (by simp [uses])
  | stopTransaction r => exact iff_of_false tag_not_mem_stop (by simp [uses])
  | statusNotification r => exact iff_of_false tag_not_mem_reportStatus (by simp [uses])
  | _ => simp [Glance.outcome, uses]

/-- What is decided about a tag: it has to resolve at a charge point that is known, and then both
records must be enabled. -/
def decision (settings : Settings) (l : Ledger) (station idTag : String) : AuthorizationStatus :=
  (l.registry.chargePoint? station).elim .invalid fun cp =>
    (l.tagFor settings idTag).elim .invalid fun tag =>
      if cp.enabled && tag.enabled then .accepted else .blocked

theorem events_resolveTag (settings : Settings) (l : Ledger) (idTag : String) :
    (l.resolveTag settings idTag).2.events = l.events :=
  congrArg (·.events) (quiet_resolveTag settings l idTag)

theorem authorize_decision (settings : Settings) (station : String) (hw : l.storage.broken = [])
    (r : Request.Authorize) :
    let status := l.decision settings station r.idTag
    (l.authorize settings station r).1 = .authorize (.ofStatus status) ∧
      (l.authorize settings station r).2.events =
        l.events ++ [.authorizationResult station r.idTag status.name] := by
  have htag := (resolveTag_eq hw settings r.idTag).1
  have hevents := events_resolveTag settings l r.idTag
  unfold authorize authorizationStatus decision
  cases l.registry.chargePoint? station with
  | none => exact ⟨rfl, rfl⟩
  | some cp =>
    dsimp only
    generalize l.resolveTag settings r.idTag = resolved at htag hevents
    obtain ⟨tag, m⟩ := resolved
    obtain rfl : tag = l.tagFor settings r.idTag := htag
    have hevents : m.events = l.events := hevents
    cases l.tagFor settings r.idTag <;> simp [publish, hevents]

theorem tagFor_eq_some_iff {idTag : String} {tag : UserTag} : l.tagFor settings idTag = some tag ↔
    idTag ≠ "" ∧ (l.database.tags.get? idTag = some tag ∨ l.database.tags.get? idTag = none ∧
      settings.autoRegisterTags = true ∧ tag = .onFirstUse idTag) := by
  unfold tagFor
  cases he : idTag.isEmpty with
  | true => simp [String.isEmpty_iff.1 he]
  | false =>
    have hne : idTag ≠ "" := fun h => by simp [h] at he
    simp only [Bool.false_eq_true, ↓reduceIte, Option.or_eq_some_iff,
      Option.ite_none_right_eq_some, Option.some.injEq, hne, ne_eq, not_false_eq_true, true_and,
      eq_comm (a := tag)]

/-- What the status of an authorization says. -/
structure Decides (settings : Settings) (l : Ledger) (station idTag : String)
    (status : AuthorizationStatus) : Prop where
  accepted : status = .accepted ↔
    (∃ cp, l.registry.chargePoint? station = some cp ∧ cp.enabled = true) ∧ idTag ≠ "" ∧
      ((∃ tag, l.database.tags.get? idTag = some tag ∧ tag.enabled = true) ∨
        l.database.tags.get? idTag = none ∧ settings.autoRegisterTags = true)
  blocked : status = .blocked ↔ ∃ cp tag, l.registry.chargePoint? station = some cp ∧
    l.tagFor settings idTag = some tag ∧ (cp.enabled = false ∨ tag.enabled = false)
  otherwise : status ≠ .accepted → status ≠ .blocked → status = .invalid

theorem decides_decision (settings : Settings) (l : Ledger) (station idTag : String) :
    l.Decides settings station idTag (l.decision settings station idTag) := by
  have hresolves : (∃ tag, l.tagFor settings idTag = some tag ∧ tag.enabled = true) ↔
      idTag ≠ "" ∧ ((∃ tag, l.database.tags.get? idTag = some tag ∧ tag.enabled = true) ∨
        l.database.tags.get? idTag = none ∧ settings.autoRegisterTags = true) := by
    constructor
    · rintro ⟨tag, htag, hon⟩
      obtain ⟨hne, hold | ⟨hnone, hauto, rfl⟩⟩ := tagFor_eq_some_iff.1 htag
      · exact ⟨hne, .inl ⟨tag, hold, hon⟩⟩
      · exact ⟨hne, .inr ⟨hnone, hauto⟩⟩
    · rintro ⟨hne, ⟨tag, hold, hon⟩ | ⟨hnone, hauto⟩⟩
      · exact ⟨tag, tagFor_eq_some_iff.2 ⟨hne, .inl hold⟩, hon⟩
      · exact ⟨_, tagFor_eq_some_iff.2 ⟨hne, .inr ⟨hnone, hauto, rfl⟩⟩, rfl⟩
  refine ⟨?_, ?_, ?_⟩
  · rw [← hresolves, decision]
    cases l.registry.chargePoint? station with
    | none => simp
    | some cp => cases l.tagFor settings idTag <;> simp
  all_goals
    rw [decision]
    cases l.registry.chargePoint? station with
    | none => simp
    | some cp =>
      cases l.tagFor settings idTag with
      | none => simp
      | some tag => cases hcp : cp.enabled <;> cases htag : tag.enabled <;> simp [hcp, htag]

end Ledger

namespace Hub

variable {h : Hub}

def uses (h : Hub) (g : String) : HandlerStep → Bool
  | .answer station r => h.plant.ledger.uses station g r
  | _ => false

def usedIn (h : Hub) (g : String) : List (Timestamp × HandlerStep) → Bool
  | [] => false
  | (now, w) :: rest => h.uses g w || (h.handlerStep now w).2.usedIn g rest

section Whole

variable (hw : h.plant.ledger.storage.broken = []) (hk : h.plant.ledger.Keyed)
include hw hk

theorem tag_handlerStep (now : Timestamp) (w : HandlerStep) (g : String) :
    (h.handlerStep now w).2.plant.ledger.database.tags.get? g =
      (h.plant.ledger.database.tags.get? g).or
        (if h.settings.autoRegisterTags = true ∧ g ≠ "" ∧ h.uses g w = true
        then some (.onFirstUse g) else none) := by
  have hcontent := content_handlerStep (p := .tag g) hw rfl hk now w
  rw [Entry.changeAll_tag] at hcontent
  have hposts : .tag g ∈ h.posts now w ↔
      h.settings.autoRegisterTags = true ∧ g ≠ "" ∧ h.uses g w = true := by
    cases w with
    | answer station r => exact Ledger.tag_mem_outcome r
    | _ => simp [posts, uses]
  refine hcontent.trans ?_
  simp only [hposts]
  split
  · rfl
  · rw [Option.or_none]
    rfl

theorem tag_runHandlers (ws : List (Timestamp × HandlerStep)) (g : String) :
    (h.runHandlers ws).2.plant.ledger.database.tags.get? g =
      (h.plant.ledger.database.tags.get? g).or
        (if h.settings.autoRegisterTags = true ∧ g ≠ "" ∧ h.usedIn g ws = true
        then some (.onFirstUse g) else none) := by
  induction ws generalizing h with
  | nil => simp [runHandlers_nil, usedIn]
  | cons w rest ih =>
    obtain ⟨hw', hk'⟩ := whole_handlerStep w.1 hw hk w.2
    have hrest := ih hw' hk'
    rw [settings_handlerStep, tag_handlerStep hw hk, Option.or_assoc] at hrest
    refine hrest.trans (congrArg _ ?_)
    by_cases hnew : h.settings.autoRegisterTags = true ∧ g ≠ ""
    · cases hfirst : h.uses g w.2 <;> simp [usedIn, hfirst, hnew]
    · simp only [← and_assoc, hnew, false_and, ↓reduceIte, Option.or_none]

theorem enabled_runHandlers (ws : List (Timestamp × HandlerStep)) {s : String} {cp : ChargePoint}
    (hcp : (h.runHandlers ws).2.plant.ledger.registry.chargePoint? s = some cp) :
    cp.enabled = (h.plant.ledger.profile s).enabled := by
  have hprofile := profile_runHandlers hw hk ws s
  rw [Ledger.profile, hcp] at hprofile
  have hbasics := congrArg ChargePoint.basics hprofile
  rw [ChargePoint.basics_foldl_heed] at hbasics
  exact congrArg (·.1) hbasics

end Whole

end Hub

/-- Along every run a tag comes on record when it is first used and stays there as it is; an
authorization is decided by what is on record of the tag and of the charge point, and told of once.
So whatever is disabled at first is never accepted. -/
theorem authorization_runHandlers {db : Database} (hk : db.Keyed) (settings : Settings)
    (seed : Nat) :
    ∃ h, Hub.start settings { database := db } seed = .ok h ∧ h.plant.ledger.database = db ∧
      ∀ before,
        let h₁ := (h.runHandlers before).2
        let l := h₁.plant.ledger
        (∀ after g, (h₁.runHandlers after).2.plant.ledger.database.tags.get? g =
          (l.database.tags.get? g).or
            (if settings.autoRegisterTags = true ∧ g ≠ "" ∧ h₁.usedIn g after = true
            then some (.onFirstUse g) else none)) ∧
        ∀ now s (q : Request.Authorize),
          let answer := h₁.handlerStep now (.answer s (.authorize q))
          ∃ status, answer.1 = some (.authorize (.ofStatus status)) ∧
            answer.2.plant.ledger.events =
              l.events ++ [.authorizationResult s q.idTag status.name] ∧
            l.Decides settings s q.idTag status ∧
            ((∃ tag, db.tags.get? q.idTag = some tag ∧ tag.enabled = false) ∨
              (∃ cp, db.chargePoints.get? s = some cp ∧ cp.enabled = false) →
                status ≠ .accepted) := by
  obtain ⟨h, hstart, rfl, hstorage, hkl, hloads⟩ := Hub.start_ok hk settings seed
  have hdb : h.plant.ledger.database = db := congrArg Storage.database hstorage
  have hw : h.plant.ledger.storage.broken = [] := by rw [hstorage]
  refine ⟨h, hstart, hdb, ?_⟩
  intro before h₁ l
  obtain ⟨hw₁, hk₁⟩ := Hub.whole_runHandlers hw hkl before
  have hs₁ : h₁.settings = h.settings := Hub.settings_runHandlers ..
  refine ⟨fun after g => hs₁ ▸ Hub.tag_runHandlers hw₁ hk₁ after g, fun now s q => ?_⟩
  intro answer
  obtain ⟨hresponse, hevents⟩ :=
    Ledger.authorize_decision h.settings s hw₁ q
  have hdecides := Ledger.decides_decision h.settings l s q.idTag
  refine ⟨l.decision h.settings s q.idTag, ?_, ?_, hdecides, ?_⟩
  · rw [← hresponse, ← hs₁]
    rfl
  · rw [← hevents, ← hs₁]
    rfl
  · rintro hoff haccepted
    obtain ⟨⟨cp, hcp, hon⟩, -, htag⟩ := hdecides.accepted.1 haccepted
    rcases hoff with ⟨tag, hold, hoff⟩ | ⟨cp₀, hold, hoff⟩
    · have hstays : l.database.tags.get? q.idTag = some tag := by
        rw [← hdb] at hold
        exact (Hub.tag_runHandlers hw hkl before q.idTag).trans (by rw [hold]; rfl)
      rw [hstays] at htag
      simp [hoff] at htag
    · have hstays := Hub.enabled_runHandlers hw hkl before hcp
      rw [Ledger.profile, hloads.tracks s, hold, hon] at hstays
      exact Bool.noConfusion (hstays.trans hoff)

def Database.guardedDepot : Database :=
  Database.depot.putTag { idTag := "lost", username := "lost", enabled := false }

theorem Database.keyed_guardedDepot : Database.guardedDepot.Keyed where
  chargePoint := keyed_depot.chargePoint
  connector := keyed_depot.connector
  transaction := keyed_depot.transaction
  location := keyed_depot.location

theorem authorization_runHandlers_guardedDepot :
    ∃ h, Hub.start Hub.depot.settings { database := .guardedDepot } 0 = .ok h ∧
      (h.runHandlers
        [(.epoch, .answer "south" (.startTransaction .visit))]).2.plant.ledger.database.tags.get?
        "visitor" = some (.onFirstUse "visitor") ∧
      (∃ tag, Database.guardedDepot.tags.get? "lost" = some tag ∧ tag.enabled = false) ∧
      ∃ status, (h.handlerStep .epoch (.answer "north" (.authorize ⟨"lost"⟩))).1 =
        some (.authorize (.ofStatus status)) ∧ status ≠ .accepted := by
  obtain ⟨h, hstart, hdb, hrun⟩ :=
    authorization_runHandlers Database.keyed_guardedDepot Hub.depot.settings 0
  obtain ⟨htags, hdecide⟩ := hrun []
  have hlost : ∃ tag, Database.guardedDepot.tags.get? "lost" = some tag ∧ tag.enabled = false :=
    ⟨_, rfl, rfl⟩
  obtain ⟨status, hresponse, -, -, hnever⟩ := hdecide .epoch "north" ⟨"lost"⟩
  refine ⟨h, hstart, (htags _ "visitor").trans ?_, hlost, status, hresponse, hnever (.inl hlost)⟩
  have hnone : (h.runHandlers []).2.plant.ledger.database.tags.get? "visitor" = none := by
    rw [Hub.runHandlers_nil, hdb]
    decide +kernel
  rw [hnone]
  rfl

end CentralSystem
