import CentralSystem.Proofs.Answering
import CentralSystem.Proofs.Ledger.Connectors
import CentralSystem.Proofs.Tiers
import CentralSystem.Proofs.Watch

namespace CentralSystem

namespace Plant

variable {p : Plant} {tiers : PowerTiers} {now : Timestamp} {station : String}

def shared (tiers : PowerTiers) (l : Ledger) (station : String) : Ledger :=
  match l.database.locationOf? station with
  | some location => assign l (plan tiers l location station)
  | none => l

theorem shared_of_some {l : Ledger} {location : Location}
    (h : l.database.locationOf? station = some location) :
    shared tiers l station = assign l (plan tiers l location station) := by
  rw [shared, h]

theorem shared_of_none {l : Ledger} (h : l.database.locationOf? station = none) :
    shared tiers l station = l := by
  rw [shared, h]

theorem quiet_checkPowerLimit (hw : p.ledger.storage.broken = []) (tiers : PowerTiers)
    (now : Timestamp) (station : String) :
    ∃ result q, p.checkPowerLimit tiers now station = .ok (result, q) ∧
      q.ledger.quiet = (shared tiers p.ledger station).quiet := by
  cases hl : p.ledger.database.locationOf? station with
  | none =>
    obtain ⟨q, hq, hquiet, -⟩ := checkPowerLimit_of_none hw hl tiers now
    exact ⟨some [], q, hq, hquiet.trans (congrArg Ledger.quiet (shared_of_none hl).symm)⟩
  | some location =>
    have hs := checkPowerLimit_of_some hw hl tiers now
    have hquiet := quiet_shareOut (p := p) tiers now location
      (smartConnectors p.ledger (site p.ledger location station))
    exact ⟨_, _, hs, hquiet.trans (congrArg Ledger.quiet (shared_of_some hl).symm)⟩

theorem quiet_foldl_trigger (entries : List (Int32 × Watched)) :
    (entries.foldl (fun p e => Hub.trigger p e.1 e.2) p).ledger.quiet = p.ledger.quiet := by
  induction entries generalizing p with
  | nil => rfl
  | cons e rest ih => exact ih.trans (quiet_command ..)

theorem changes_shared {l : Ledger} (hw : l.storage.broken = []) (settings : Settings)
    (hk : l.Keyed) (tiers : PowerTiers) (station : String) :
    Changes settings true 0 l.quiet (shared tiers l station).quiet := by
  cases hl : l.database.locationOf? station with
  | none =>
    rw [shared_of_none hl]
    exact .refl _
  | some location =>
    rw [shared_of_some hl]
    exact (changes_plan hw settings hk tiers location station).1

end Plant

def Request.ofText? (text : String) : Option Request :=
  match Frame.parse text with
  | .ok (.call _ action payload) => (Request.decode action payload).toOption
  | _ => none

theorem Request.ofText?_eq_some_iff {text : String} {r : Request} :
    Request.ofText? text = some r ↔ ∃ uniqueId action payload,
      Frame.parse text = .ok (.call uniqueId action payload) ∧
      Request.decode action payload = .ok r := by
  unfold ofText?
  split
  · next uniqueId action payload hf =>
    rw [hf]
    constructor
    · intro h
      cases hd : Request.decode action payload with
      | error e => simp [hd, Except.toOption] at h
      | ok r' =>
        rw [hd] at h
        obtain rfl := Option.some.inj h
        exact ⟨uniqueId, action, payload, rfl, hd⟩
    · rintro ⟨uniqueId', action', payload', he, hd⟩
      obtain ⟨rfl, rfl, rfl⟩ : uniqueId = uniqueId' ∧ action = action' ∧ payload = payload' := by
        simpa using he
      rw [hd]
      rfl
  · next hf =>
    constructor
    · intro h
      cases h
    · rintro ⟨uniqueId, action, payload, he, -⟩
      exact absurd he (hf uniqueId action payload)

/-- Whether the answer to a text that comes in can be delivered. Who works at a hub with no charge
point behind it, or tampers with its books, is no traffic. -/
def Hub.delivers (h : Hub) : HubStep → Bool
  | .receive _ id _ => (h.plant.switchboard.connection? id).all (·.isOpen)
  | .handler _ (.answer ..) | .records _ => false
  | _ => true

namespace Ledger

/-- Two ledgers have the same books, up to what is noted, ordered and told of. -/
structure SameBooks (l l' : Ledger) : Prop where
  registry : l'.registry = l.registry
  storage : l'.storage = l.storage

namespace SameBooks

variable {l l' : Ledger}

theorem of_quiet (h : l'.quiet = l.quiet) : l.SameBooks l' :=
  ⟨congrArg (·.registry) h, congrArg (·.storage) h⟩

theorem database (h : l.SameBooks l') : l'.database = l.database :=
  congrArg Storage.database h.storage

end SameBooks

end Ledger

namespace Hub

variable {h h' : Hub}

def answering (h : Hub) (now : Timestamp) (c : Connection) (r : Request) (uniqueId : String) :
    Hub :=
  (h.handle now c.station r).2.setSwitchboard
    (h.plant.switchboard.answered c ((h.handle now c.station r).1.frame uniqueId))

section Open

variable (hs : h.plant.switchboard.Sound) {id : Nat} {c : Connection}
  (hc : h.plant.switchboard.connection? id = some c) (hopen : c.isOpen = true)
include hs hc hopen

theorem receive_of_request (now : Timestamp) {text : String} {r : Request}
    (hr : Request.ofText? text = some r) :
    ∃ uniqueId, h.receive now id text =
      (h.answering now c r uniqueId).followUp now c.station r := by
  obtain ⟨uniqueId, action, payload, hf, hd⟩ := Request.ofText?_eq_some_iff.1 hr
  refine ⟨uniqueId, ?_⟩
  rw [receive_eq hc now hf, receiveFrame, receiveCall, hd]
  have hreply := Switchboard.reply_noteCall hs hc hopen
    (show ((h.handle now c.station r).1.frame uniqueId).uniqueId = uniqueId from rfl)
  simp only [handle, setSwitchboard] at hreply ⊢
  rw [hreply]
  rfl

theorem quiet_receive (now : Timestamp) {text : String} (hr : Request.ofText? text = none) :
    ∃ s, (h.receive now id text).quiet = (h.setSwitchboard s).quiet := by
  cases dispatch_receive hs hc hopen now text with
  | dropped e unread same => exact ⟨h.plant.switchboard, same⟩
  | settled uniqueId read same => exact ⟨_, same⟩
  | refused uniqueId action payload e read invalid same => exact ⟨_, same⟩
  | answered uniqueId action payload r result read valid =>
    have hsome := Request.ofText?_eq_some_iff.2 ⟨uniqueId, action, payload, read, valid⟩
    rw [hr] at hsome
    cases hsome

end Open

section Sharing

variable {tiers : PowerTiers} (ht : h.settings.tiers = some tiers) {now : Timestamp}
  {station : String} {r : Request}
include ht

theorem followUp_of_sharesPower (hr : r.sharesPower = true) {result : Option (List Grant)}
    {p : Plant}
    (hp : h.plant.checkPowerLimit tiers now station = .ok (result, p)) :
    h.followUp now station r = { h with plant := p } := by
  simp only [followUp, ht]
  cases r with
  | startTransaction r | stopTransaction r | statusNotification r => simp only [hp, Except.map]
  | _ => cases hr

theorem followUp_of_not_sharesPower (hr : r.sharesPower = false) {p : Plant}
    (hp : h.plant.applyDefault now station = .ok p) :
    h.followUp now station r = { h with plant := p } ∨ h.followUp now station r = h := by
  simp only [followUp, ht]
  cases r with
  | startTransaction r | stopTransaction r | statusNotification r => cases hr
  | bootNotification r =>
    dsimp only
    by_cases hk : h.plant.ledger.registry.knows station = true
    · left
      simp only [if_pos hk, hp]
    · right
      simp only [if_neg hk]
  | _ => exact .inr rfl

end Sharing

section Whole

variable (hw : h.plant.ledger.storage.broken = []) {tiers : PowerTiers}
  (ht : h.settings.tiers = some tiers)
include hw ht

theorem quiet_followUp (now : Timestamp) (station : String) (r : Request) :
    (h.followUp now station r).plant.ledger.quiet =
      (if r.sharesPower then Plant.shared tiers h.plant.ledger station
        else h.plant.ledger).quiet := by
  cases hr : r.sharesPower with
  | true =>
    obtain ⟨result, q, hq, hshared⟩ := Plant.quiet_checkPowerLimit hw tiers now station
    rw [followUp_of_sharesPower ht hr hq]
    exact hshared
  | false =>
    obtain ⟨p, hp, hquiet⟩ := Plant.quiet_applyDefault hw now station
    rcases followUp_of_not_sharesPower ht hr hp with he | he
    · rw [he]
      exact hquiet
    · rw [he]
      rfl

theorem quiet_balance (now : Timestamp) (station : String) :
    (h.balance now station).plant.ledger.quiet =
      (Plant.shared tiers h.plant.ledger station).quiet := by
  obtain ⟨result, q, hq, hshared⟩ := Plant.quiet_checkPowerLimit hw tiers now station
  simpa only [balance, ht, hq] using hshared

end Whole

theorem settings_receive (now : Timestamp) (id : Nat) (text : String) :
    (h.receive now id text).settings = h.settings := by
  rw [receive]
  split
  · rfl
  · split
    · rfl
    · next f _ =>
      cases f with
      | callError uniqueId code description details => rfl
      | callResult uniqueId payload =>
        rw [receiveFrame]
        split <;> rfl
      | call uniqueId action payload =>
        rw [receiveFrame, receiveCall]
        split
        · rw [refuse]
          split <;> rfl
        · dsimp only
          split
          · exact settings_followUp ..
          · rfl

theorem settings_step (i : HubStep) : (h.step i).settings = h.settings := by
  cases i with
  | receive now id text => exact settings_receive now id text
  | handler now w => exact settings_handlerStep now w
  | applyDefault now station =>
    rw [step]
    cases h.plant.applyDefault now station <;> rfl
  | remoteStart station idTag connector =>
    rw [step, remoteStart]
    split
    · rfl
    · cases h.plant.switchboard.request station
        (.remoteStartTransaction { connectorId := connector, idTag, chargingProfile := none }) <;>
        rfl
  | remoteStop station transaction =>
    rw [step, remoteStop]
    cases h.plant.switchboard.request station
      (.remoteStopTransaction { transactionId := transaction }) <;> rfl
  | _ => rfl

/-- The ledger once a request that comes in with a step is answered. -/
def answered (h : Hub) : HubStep → Ledger
  | .receive now id text =>
    match h.plant.switchboard.connection? id, Request.ofText? text with
    | some c, some r => (h.plant.ledger.answer h.settings now c.station r).2
    | _, _ => h.plant.ledger
  | _ => h.plant.ledger

/-- When and for whom power is shared out anew with a step. -/
def sharer? (h : Hub) : HubStep → Option (Timestamp × String)
  | .receive now id text =>
    match h.plant.switchboard.connection? id, Request.ofText? text with
    | some c, some r => if r.sharesPower then some (now, c.station) else none
    | _, _ => none
  | .handler now (.followUp station r) => if r.sharesPower then some (now, station) else none
  | .handler now (.balance station) => some (now, station)
  | _ => none

/-- The books behind a step: a request is answered, then power is shared out. -/
def books (h : Hub) (tiers : PowerTiers) (i : HubStep) : Ledger :=
  (h.sharer? i).elim (h.answered i) fun e => Plant.shared tiers (h.answered i) e.2

structure Running (tiers : PowerTiers) (h : Hub) : Prop where
  sound : h.plant.switchboard.Sound
  whole : h.plant.ledger.storage.broken = []
  keyed : h.plant.ledger.Keyed
  tracks : h.plant.ledger.registry.Tracks h.plant.ledger.database
  sharing : h.settings.tiers = some tiers

namespace Running

variable {tiers : PowerTiers} (hr : h.Running tiers) {i : HubStep} (hi : h.delivers i = true)
include hr

theorem changes_answered (sharing : Bool) (i : HubStep) :
    ∃ n, Changes h.settings sharing n h.plant.ledger.quiet (h.answered i).quiet := by
  unfold answered
  split
  · split
    · exact ⟨_, Ledger.changes_answer _ _ hr.whole hr.keyed _⟩
    · exact ⟨0, .refl _⟩
  · exact ⟨0, .refl _⟩

theorem whole_answered (i : HubStep) : (h.answered i).storage.broken = [] := by
  obtain ⟨n, hc⟩ := hr.changes_answered false i
  exact hc.broken.trans hr.whole

theorem keyed_answered (i : HubStep) : (h.answered i).Keyed := by
  obtain ⟨n, hc⟩ := hr.changes_answered false i
  exact hc.preserve (P := Ledger.Keyed) Change.keyed hr.keyed

theorem limitAt_answered (i : HubStep) (s : String) (n : UInt32) :
    (h.answered i).registry.limitAt s n = h.plant.ledger.registry.limitAt s n := by
  obtain ⟨m, hc⟩ := hr.changes_answered false i
  exact hc.limitAt_eq hr.keyed s n

theorem tracks_answered (i : HubStep) :
    (h.answered i).registry.Tracks (h.answered i).database ∧
      h.plant.ledger.database.SameSites (h.answered i).database := by
  obtain ⟨n, hc⟩ := hr.changes_answered false i
  exact hc.tracks hr.keyed hr.tracks

theorem changes_books (i : HubStep) :
    ∃ n, Changes h.settings true n h.plant.ledger.quiet (h.books tiers i).quiet := by
  obtain ⟨n, hc⟩ := hr.changes_answered true i
  cases hs : h.sharer? i with
  | none =>
    rw [books, hs]
    exact ⟨n, hc⟩
  | some e =>
    rw [books, hs]
    exact ⟨n + 0, hc.trans (Plant.changes_shared (hr.whole_answered i) h.settings
      (hr.keyed_answered i) tiers e.2)⟩

theorem answering {id : Nat} {c : Connection} (hc : h.plant.switchboard.connection? id = some c)
    (now : Timestamp) (r : Request) (uniqueId : String) :
    (h.answering now c r uniqueId).Running tiers ∧ h.plant.ledger.database.SameSites
      (h.answering now c r uniqueId).plant.ledger.database := by
  have hchanges : Changes h.settings false _ _ _ :=
    Ledger.changes_answer now c.station hr.whole hr.keyed r
  obtain ⟨htr, hsame⟩ := hchanges.tracks hr.keyed hr.tracks
  exact ⟨⟨hr.sound.answered hc _, hchanges.broken.trans hr.whole,
    hchanges.preserve (P := Ledger.Keyed) Change.keyed hr.keyed, htr, hr.sharing⟩, hsame⟩

theorem sameBooks_receive {id : Nat} (hopen : ∀ c, h.plant.switchboard.connection? id = some c →
    c.isOpen = true) (now : Timestamp) (text : String) :
    (h.books tiers (.receive now id text)).SameBooks (h.receive now id text).plant.ledger := by
  rw [books, answered, sharer?]
  cases hc : h.plant.switchboard.connection? id with
  | none =>
    rw [receive, hc]
    exact ⟨rfl, rfl⟩
  | some c =>
    cases htext : Request.ofText? text with
    | none =>
      obtain ⟨s, he⟩ := quiet_receive hr.sound hc (hopen c hc) now htext
      exact .of_quiet (congrArg (·.plant.ledger) he)
    | some r =>
      obtain ⟨uniqueId, he⟩ := receive_of_request hr.sound hc (hopen c hc) now htext
      obtain ⟨hanswered, -⟩ := hr.answering hc now r uniqueId
      have hq := quiet_followUp hanswered.whole hanswered.sharing now c.station r
      rw [he]
      refine .of_quiet (hq.trans ?_)
      dsimp only
      split <;> rfl

include hi

theorem sameBooks_step : (h.books tiers i).SameBooks (h.step i).plant.ledger := by
  cases i with
  | receive now id text =>
    refine hr.sameBooks_receive (fun c hc => ?_) now text
    simpa [delivers, hc] using hi
  | handler now w =>
    cases w with
    | answer station r => cases hi
    | followUp station r =>
      refine .of_quiet ((quiet_followUp hr.whole hr.sharing now station r).trans ?_)
      rw [books, sharer?]
      split <;> rfl
    | balance station => exact .of_quiet (quiet_balance hr.whole hr.sharing now station)
  | applyDefault now station =>
    obtain ⟨p, hp, hq⟩ := Plant.quiet_applyDefault hr.whole now station
    rw [step, hp]
    exact .of_quiet hq
  | remoteStart station idTag connector =>
    rw [step, remoteStart]
    split
    · exact ⟨rfl, rfl⟩
    · cases h.plant.switchboard.request station
        (.remoteStartTransaction { connectorId := connector, idTag, chargingProfile := none }) <;>
        exact ⟨rfl, rfl⟩
  | remoteStop station transaction =>
    rw [step, remoteStop]
    cases h.plant.switchboard.request station
      (.remoteStopTransaction { transactionId := transaction }) <;> exact ⟨rfl, rfl⟩
  | tick => exact .of_quiet (Plant.quiet_foldl_trigger h.watch.entries)
  | records ledger => cases hi
  | connect | disconnect | hangUp | closeAll | flush | drain => exact ⟨rfl, rfl⟩

theorem step : (h.step i).Running tiers ∧
    h.plant.ledger.database.SameSites (h.step i).plant.ledger.database := by
  obtain ⟨n, hc⟩ := hr.changes_books i
  have hb := hr.sameBooks_step hi
  have hk : (h.books tiers i).Keyed := hc.preserve (P := Ledger.Keyed) Change.keyed hr.keyed
  have hbroken : (h.books tiers i).storage.broken = [] := hc.broken.trans hr.whole
  obtain ⟨htr, hsame⟩ : (h.books tiers i).registry.Tracks (h.books tiers i).database ∧
      h.plant.ledger.database.SameSites (h.books tiers i).database := hc.tracks hr.keyed hr.tracks
  refine ⟨⟨sound_step hr.sound i, ?_, ?_, ?_, ?_⟩, ?_⟩
  · rw [hb.storage]
    exact hbroken
  · rw [Ledger.Keyed, hb.registry, hb.database]
    exact hk
  · rw [hb.registry, hb.database]
    exact htr
  · rw [settings_step]
    exact hr.sharing
  · rw [hb.database]
    exact hsame

end Running

theorem running_start {tiers : PowerTiers} {db : Database} (hk : db.Keyed) {settings : Settings}
    (ht : settings.tiers = some tiers) (seed : Nat) :
    ∃ h, start settings { database := db } seed = .ok h ∧ h.Running tiers ∧
      h.plant.ledger.database = db ∧ h.plant.switchboard = { seed } ∧
      ∀ s i c, h.plant.ledger.registry.connector? s i = some c → db.connector? s i = some c := by
  obtain ⟨l, hl, hstorage, hloads⟩ := Ledger.load_ok hk
  have hdb : l.database = db := congrArg Storage.database hstorage
  have hstart := start_eq settings seed hl
  refine ⟨_, hstart, ⟨sound_start hstart, ?_, ⟨hloads.keyed hk, hdb ▸ hk⟩, ?_, ht⟩, hdb, rfl, ?_⟩
  · rw [hstorage]
  · exact hdb ▸ hloads.tracks
  · intro s i c hc
    exact ((hloads.connector s i c).1 hc).2

def Along (P : Hub → HubStep → Prop) (h : Hub) : List HubStep → Prop
  | [] => True
  | i :: rest => P h i ∧ (h.step i).Along P rest

instance decidableAlong {P : Hub → HubStep → Prop} [∀ h i, Decidable (P h i)] :
    (h : Hub) → (is : List HubStep) → Decidable (h.Along P is)
  | _, [] => .isTrue trivial
  | h, i :: rest =>
    have := decidableAlong (P := P) (h.step i) rest
    inferInstanceAs (Decidable (P h i ∧ (h.step i).Along P rest))

theorem along_append {P : Hub → HubStep → Prop} {is is' : List HubStep} :
    h.Along P (is ++ is') ↔ h.Along P is ∧ (h.runSteps is).Along P is' := by
  induction is generalizing h with
  | nil => simp [Along, runSteps]
  | cons i rest ih =>
    simp only [List.cons_append, Along, ih, and_assoc]
    rfl

theorem runSteps_append (is is' : List HubStep) :
    h.runSteps (is ++ is') = (h.runSteps is).runSteps is' :=
  List.foldl_append

/-- What each step preserves, a run preserves. -/
theorem Along.preserve {P : Hub → HubStep → Prop} {Q : Hub → Prop}
    (hstep : ∀ h i, Q h → P h i → Q (h.step i)) {is : List HubStep} (h₀ : h.Along P is)
    (hq : Q h) : Q (h.runSteps is) := by
  induction is generalizing h with
  | nil => exact hq
  | cons i rest ih => exact ih h₀.2 (hstep h i hq h₀.1)

end Hub

end CentralSystem
