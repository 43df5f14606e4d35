import CentralSystem.Proofs.Traffic
import Mathlib.Data.List.Infix

namespace CentralSystem

namespace Plant

variable {tiers : PowerTiers} {cs : List (String × Connector)}

theorem assignments_cases {a : Assignment} (h : a ∈ assignments tiers cs) :
    (a.1 ∈ idle cs ∧ a.2 = 0) ∨ (a.1 ∈ waiting cs ∧ a ∈ granted tiers cs) := by
  rcases List.mem_append.1 h with h | h
  · obtain ⟨e, he, rfl⟩ := List.mem_map.1 h
    exact .inl ⟨he, rfl⟩
  · exact .inr ⟨(List.of_mem_zip h).1, h⟩

theorem exists_granted (tiers : PowerTiers) {e : String × Connector} (h : e ∈ waiting cs) :
    ∃ amps, (e, amps) ∈ granted tiers cs := by
  rw [← Ledger.map_fst_granted tiers cs] at h
  obtain ⟨⟨e', amps⟩, ha, rfl⟩ := List.mem_map.1 h
  exact ⟨amps, ha⟩

end Plant

namespace Ledger

open Plant Registry

section Plan

variable {tiers : PowerTiers} {l : Ledger} {location : Location} {station s : String} {i : UInt32}
  {c : Connector} (hk : l.Keyed) (hc : l.registry.connector? s i = some c)
include hk hc

theorem eq_of_mem_plan {a : Assignment} (ha : a ∈ plan tiers l location station)
    (hkey : a.key = (s, i)) : a.1 = (s, c) := by
  have hmem := (mem_smartConnectors hk.1.connector).1 (mem_of_mem_assignments ha).1
  obtain ⟨rfl, rfl⟩ := Prod.mk.inj hkey
  exact Prod.ext rfl (Option.some.inj (hmem.2.2.symm.trans hc))

theorem limitAfter_of_active (ha : c.isActive = true) (hne : c.limit ≠ 0) :
    limitAfter tiers l location station s i = c.limit := by
  rcases limitAfter_cases tiers l location station s i with ⟨a, hmem, hkey, -⟩ | ⟨-, he⟩
  · have hac := eq_of_mem_plan hk hc hmem hkey
    rcases assignments_cases hmem with ⟨hidle, -⟩ | ⟨hwaits, -⟩
    · simp [idle, hac, ha] at hidle
    · simp [waiting, hac, hne] at hwaits
  · exact he.trans (limitAt_of_connector? hc)

/-- Behind a sharing of power that sees a connector, it has a limit just when it is active. -/
theorem limitAfter_ne_zero_iff (hd : tiers.isDescending = true)
    (hsees : (s, c) ∈ smartConnectors l (site l location station)) :
    limitAfter tiers l location station s i ≠ 0 ↔ c.isActive = true := by
  obtain rfl : c.id = i := hk.1.connector s i c hc
  obtain ⟨hf, hm, hh, -⟩ := PowerTiers.ne_of_isDescending hd
  rcases limitAfter_cases tiers l location station s c.id with ⟨a, hmem, hkey, he⟩ | ⟨hno, he⟩
  · have hac := eq_of_mem_plan hk hc hmem hkey
    rw [he]
    rcases assignments_cases hmem with ⟨hidle, h0⟩ | ⟨hwaits, hg⟩
    · have hoff : c.isActive = false := by
        have := (List.mem_filter.1 hidle).2
        simp only [hac, Bool.and_eq_true, Bool.not_eq_eq_eq_not, Bool.not_true] at this
        exact this.1
      simp [h0, hoff]
    · have hon : c.isActive = true := by
        have := (List.mem_filter.1 (List.mem_filter.1 hwaits).1).2
        rwa [hac] at this
      have hne : a.2 ≠ 0 := by
        rcases mem_picks_of_granted hg with h | ⟨h | h, -⟩ <;> rw [h] <;> assumption
      simp [hne, hon]
  · rw [he, limitAt_of_connector? hc]
    constructor
    · intro hne
      by_contra hoff
      exact hno _ (mem_plan_of_idle tiers hsees (by simpa using hoff) hne) rfl
    · intro hon h0
      have hwaits : (s, c) ∈ waiting (smartConnectors l (site l location station)) :=
        List.mem_filter.2 ⟨List.mem_filter.2 ⟨hsees, hon⟩, by simp [h0]⟩
      obtain ⟨amps, hg⟩ := exists_granted tiers hwaits
      exact hno _ (List.mem_append_right _ hg) rfl

end Plan

theorem connector?_assign_plan {l : Ledger} (hw : l.storage.broken = []) (hk : l.Keyed)
    (tiers : PowerTiers) (location : Location) (station s : String) (i : UInt32) :
    (assign l (plan tiers l location station)).registry.connector? s i =
      (l.registry.connector? s i).map fun c =>
        { c with limit := limitAfter tiers l location station s i } := by
  rw [(changes_plan hw default hk tiers location station).2 s i, limitAfter]
  cases hf : (plan tiers l location station).find? (·.key = (s, i)) with
  | none =>
    cases hc : l.registry.connector? s i with
    | none => rfl
    | some c =>
      simp only [Option.map_none, Option.none_or, Option.elim_none, Option.map_some,
        limitAt_of_connector? hc]
  | some a =>
    have hkey : a.key = (s, i) := by simpa using List.find?_some hf
    have hmem := (mem_smartConnectors hk.1.connector).1
      (mem_of_mem_assignments (List.mem_of_find?_eq_some hf)).1
    obtain ⟨rfl, rfl⟩ := Prod.mk.inj hkey
    rw [hmem.2.2]
    rfl

end Ledger

namespace Database

variable {db db' : Database}

theorem SameSites.locationOf?_eq (h : db.SameSites db') (s : String) :
    db'.locationOf? s = db.locationOf? s := by
  rw [locationOf?, locationOf?, h.named, h.locations]

def Settled (db : Database) : Prop :=
  ∀ id location, db.locations.get? id = some location → ∀ s ∈ location.chargePoints,
    db.isSmart s = true → db.named? s = some id

theorem Settled.congr (h : db.Settled) (hs : db.SameSites db') : db'.Settled := by
  intro id location hl s hmem hsmart
  rw [hs.locations] at hl
  rw [hs.smart] at hsmart
  rw [hs.named]
  exact h id location hl s hmem hsmart

theorem Settled.named (h : db.Settled) {s id : String} (hb : db.Belongs s id)
    (hs : db.isSmart s = true) : db.named? s = some id := by
  obtain ⟨location, hl, hmem | hnamed⟩ := hb
  · exact h id location hl s hmem hs
  · exact hnamed

end Database

namespace Ledger

open Plant Registry

/-- Just the active connectors have a limit, at those of these charge points whose power is shared
out. -/
def FollowsActivity (P : String → Prop) (l : Ledger) : Prop :=
  ∀ s, P s → l.database.isSmart s = true → (l.database.locationOf? s).isSome = true →
    ∀ i c, l.registry.connector? s i = some c → (c.limit ≠ 0 ↔ c.isActive = true)

def InTiers (tiers : PowerTiers) (l : Ledger) : Prop :=
  ∀ s i, l.registry.limitAt s i ≠ 0 → l.registry.limitAt s i = tiers.high ∨
    l.registry.limitAt s i = tiers.middle ∨ l.registry.limitAt s i = tiers.floor

section Shared

variable {tiers : PowerTiers} {l : Ledger} {station : String} (hw : l.storage.broken = [])
  (hk : l.Keyed)
include hw hk

/-- A sharing of power makes limits follow activity, where they do so but for the charge point that
asks for it. -/
theorem FollowsActivity.shared (h : l.FollowsActivity (· ≠ station))
    (hd : tiers.isDescending = true) (htr : l.registry.Tracks l.database)
    (hset : l.database.Settled) :
    (Plant.shared tiers l station).FollowsActivity fun _ => True := by
  have hsame : l.database.SameSites (Plant.shared tiers l station).database :=
    ((changes_shared hw default hk tiers station).tracks hk htr).2
  intro s _ hsmart hsome i c' hc'
  rw [hsame.smart] at hsmart
  rw [hsame.locationOf?_eq] at hsome
  cases hl : l.database.locationOf? station with
  | none =>
    have hne : s ≠ station := by
      rintro rfl
      simp [hl] at hsome
    rw [shared_of_none hl] at hc'
    exact h s hne hsmart hsome i c' hc'
  | some location =>
    rw [shared_of_some hl, connector?_assign_plan hw hk] at hc'
    obtain ⟨c, hc, rfl⟩ := Option.map_eq_some_iff.1 hc'
    obtain ⟨-, hnamed⟩ := locations_get? hl hk.2
    by_cases hat : l.database.named? s = some location.id
    · have hsite : s ∈ site l location station :=
        mem_site.2 (.inr (.inr ⟨knows_of_connector? hc, hat⟩))
      have hsees : (s, c) ∈ smartConnectors l (site l location station) :=
        (mem_smartConnectors hk.1.connector).2 ⟨hsite, hsmart, (hk.1.connector s i c hc).symm ▸ hc⟩
      show limitAfter tiers l location station s i ≠ 0 ↔ c.isActive = true
      exact limitAfter_ne_zero_iff hk hc hd hsees
    · have hne : s ≠ station := fun he => hat (he ▸ hnamed)
      have hout : ¬l.database.Belongs s location.id := fun hb => hat (hset.named hb hsmart)
      rw [limitAfter_elsewhere hk hl hout, limitAt_of_connector? hc]
      exact h s hne hsmart hsome i c hc

theorem InTiers.shared (h : l.InTiers tiers) : (Plant.shared tiers l station).InTiers tiers := by
  intro s i hne
  cases hl : l.database.locationOf? station with
  | none =>
    rw [shared_of_none hl] at hne ⊢
    exact h s i hne
  | some location =>
    rw [shared_of_some hl, limitAt_assign_plan hw hk] at hne ⊢
    exact tier_limitAfter (h s i) hne

theorem limit_shared_of_active {s : String} {i : UInt32} {c : Connector}
    (hc : (Plant.shared tiers l station).registry.connector? s i = some c)
    (ha : c.isActive = true) (hne : l.registry.limitAt s i ≠ 0) :
    c.limit = l.registry.limitAt s i := by
  cases hl : l.database.locationOf? station with
  | none =>
    rw [shared_of_none hl] at hc
    exact (limitAt_of_connector? hc).symm
  | some location =>
    rw [shared_of_some hl, connector?_assign_plan hw hk] at hc
    obtain ⟨c₀, hc₀, rfl⟩ := Option.map_eq_some_iff.1 hc
    rw [limitAt_of_connector? hc₀] at hne ⊢
    exact limitAfter_of_active hk hc₀ ha hne

end Shared

end Ledger

namespace Hub

open Ledger

variable {h : Hub} {tiers : PowerTiers}

def stopsOwn (h : Hub) : HubStep → Bool
  | .receive _ id text =>
    match h.plant.switchboard.connection? id, Request.ofText? text with
    | some c, some (.stopTransaction stop) =>
      (h.plant.ledger.record? stop.transactionId).all fun t =>
        t.isFinished || t.chargePoint == c.station
    | _, _ => true
  | _ => true

theorem Running.connector?_answered (hr : h.Running tiers) {i : HubStep}
    (hown : h.stopsOwn i = true) {s : String} (hs : ∀ e, h.sharer? i = some e → s ≠ e.2) (n : UInt32) :
    (h.answered i).registry.connector? s n = h.plant.ledger.registry.connector? s n := by
  cases i with
  | receive now id text =>
    rw [answered]
    rw [stopsOwn] at hown
    rw [sharer?] at hs
    cases hc : h.plant.switchboard.connection? id with
    | none => rfl
    | some c =>
      cases htext : Request.ofText? text with
      | none => rfl
      | some r =>
        simp only [hc, htext] at hs hown
        cases hshares : r.sharesPower with
        | false => exact connector?_answer now c.station hshares s n
        | true =>
          have hne : s ≠ c.station := hs (now, c.station) (if_pos hshares)
          refine connector?_answer_of_ne now c.station hne n hr.whole r ?_
          rintro stop rfl t ht ho
          simpa [ht, ho] using hown
  | _ => rfl

/-- The invariant of the limits: they are tiers, and those connectors have one that are active. -/
structure Allotted (tiers : PowerTiers) (h : Hub) : Prop extends h.Running tiers where
  settled : h.plant.ledger.database.Settled
  inTiers : h.plant.ledger.InTiers tiers
  follows : h.plant.ledger.FollowsActivity fun _ => True

/-- Whether a request may come in: its answer can be delivered, and it stops nothing of others. -/
def admits (h : Hub) (i : HubStep) : Bool := h.delivers i && h.stopsOwn i

namespace Allotted

variable (ha : h.Allotted tiers) {i : HubStep} (hi : h.admits i = true)
include ha hi

theorem step (hd : tiers.isDescending = true) : (h.step i).Allotted tiers := by
  obtain ⟨hdel, hown⟩ := Bool.and_eq_true_iff.1 hi
  obtain ⟨hrun, hsame⟩ := ha.toRunning.step hdel
  have hb := ha.sameBooks_step hdel
  obtain ⟨htr, hsites⟩ := ha.tracks_answered i
  have htiers : (h.answered i).InTiers tiers := by
    intro s n hne
    rw [ha.limitAt_answered] at hne ⊢
    exact ha.inTiers s n hne
  have hfollows (P : String → Prop) (hP : ∀ s, P s → ∀ e, h.sharer? i = some e → s ≠ e.2) :
      (h.answered i).FollowsActivity P := by
    intro s hs hsmart hsome n c hc
    rw [hsites.smart] at hsmart
    rw [hsites.locationOf?_eq] at hsome
    rw [ha.connector?_answered hown (hP s hs)] at hc
    exact ha.follows s trivial hsmart hsome n c hc
  have hbooks : (h.books tiers i).InTiers tiers ∧
      (h.books tiers i).FollowsActivity fun _ => True := by
    rw [books]
    cases hs : h.sharer? i with
    | none => exact ⟨htiers, hfollows _ fun s _ e he => by rw [hs] at he; cases he⟩
    | some e =>
      have hw := ha.whole_answered i
      have hk := ha.keyed_answered i
      refine ⟨htiers.shared hw hk, ?_⟩
      refine FollowsActivity.shared hw hk (hfollows _ fun s hne e' he => ?_) hd htr
        (ha.settled.congr hsites)
      rw [hs] at he
      obtain rfl := Option.some.inj he
      exact hne
  refine ⟨hrun, ha.settled.congr hsame, ?_, ?_⟩
  · rw [InTiers, hb.registry]
    exact hbooks.1
  · rw [FollowsActivity, hb.registry, hb.database]
    exact hbooks.2

theorem limit_step {s : String} {n : UInt32} {c : Connector}
    (hc : (h.step i).plant.ledger.registry.connector? s n = some c) (hactive : c.isActive = true)
    (hne : h.plant.ledger.registry.limitAt s n ≠ 0) :
    c.limit = h.plant.ledger.registry.limitAt s n := by
  obtain ⟨hdel, -⟩ := Bool.and_eq_true_iff.1 hi
  rw [(ha.sameBooks_step hdel).registry, books] at hc
  rw [← ha.limitAt_answered i] at hne ⊢
  cases hs : h.sharer? i with
  | none =>
    rw [hs] at hc
    exact (Registry.limitAt_of_connector? hc).symm
  | some e =>
    rw [hs] at hc
    exact limit_shared_of_active (ha.whole_answered i) (ha.keyed_answered i) hc hactive hne

omit hi in
theorem runSteps (hd : tiers.isDescending = true) {is : List HubStep}
    (his : h.Along (fun h i => h.admits i = true) is) : (h.runSteps is).Allotted tiers :=
  his.preserve (Q := Hub.Allotted tiers) (fun _ _ ha hi => ha.step hi hd) ha

omit hi in
/-- A limit stays as it is over a run, as long as the connector is active all along. -/
theorem limit_runSteps (hd : tiers.isDescending = true) {is : List HubStep}
    (his : h.Along (fun h i => h.admits i = true) is) {s : String} {n : UInt32} {c : Connector}
    (hc : h.plant.ledger.registry.connector? s n = some c) (hne : c.limit ≠ 0)
    (hactive : ∀ part, part <+: is → ∃ c',
      (h.runSteps part).plant.ledger.registry.connector? s n = some c' ∧ c'.isActive = true) :
    ∃ c', (h.runSteps is).plant.ledger.registry.connector? s n = some c' ∧ c'.limit = c.limit := by
  induction is generalizing h c with
  | nil => exact ⟨c, hc, rfl⟩
  | cons i rest ih =>
    obtain ⟨hi, hrest⟩ := his
    obtain ⟨c₁, hc₁, ha₁⟩ := hactive [i] ⟨rest, rfl⟩
    have hlimit := ha.limit_step hi hc₁ ha₁
    rw [Registry.limitAt_of_connector? hc] at hlimit
    obtain ⟨c', hc', he⟩ := ih (ha.step hi hd) hrest hc₁ (hlimit hne ▸ hne) fun part hpart =>
      hactive (i :: part) (List.cons_prefix_cons.2 ⟨rfl, hpart⟩)
    exact ⟨c', hc', he.trans (hlimit hne)⟩

end Allotted

theorem allotted_start {db : Database} (hk : db.Keyed)
    (hidle : ∀ s i c, db.connector? s i = some c → c.isActive = false ∧ c.limit = 0)
    (hnames : ∀ id location, db.locations.get? id = some location → ∀ s ∈ location.chargePoints,
      ∀ cp, db.chargePoints.get? s = some cp → cp.location = some id)
    {settings : Settings} (ht : settings.tiers = some tiers) (seed : Nat) :
    ∃ h, start settings { database := db } seed = .ok h ∧ h.Allotted tiers := by
  obtain ⟨h, hstart, hr, hdb, -, hstored⟩ := running_start hk ht seed
  refine ⟨h, hstart, hr, ?_, ?_, ?_⟩
  · intro id location hl s hs hsmart
    rw [hdb] at hl hsmart ⊢
    obtain ⟨cp, hcp, -⟩ := (Option.any_eq_true _ _).1 hsmart
    rw [Database.named?, hcp]
    exact hnames id location hl s hs cp hcp
  · intro s i hne
    cases hc : h.plant.ledger.registry.connector? s i with
    | none => simp [Registry.limitAt, hc] at hne
    | some c =>
      rw [Registry.limitAt_of_connector? hc] at hne
      exact absurd (hidle s i c (hstored s i c hc)).2 hne
  · intro s _ _ _ i c hc
    obtain ⟨hoff, h0⟩ := hidle s i c (hstored s i c hc)
    simp [hoff, h0]

end Hub

/-- A hub that shares out power and starts from a database where every connector is idle and has no
limit: at the charge points that take profiles and have a location, just the active connectors have
a limit, which is a tier; and who has a limit keeps it for as long as the connector is active. -/
theorem allotted_runSteps {db : Database} (hk : db.Keyed)
    (hidle : ∀ s i c, db.connector? s i = some c → c.isActive = false ∧ c.limit = 0)
    (hnames : ∀ id location, db.locations.get? id = some location → ∀ s ∈ location.chargePoints,
      ∀ cp, db.chargePoints.get? s = some cp → cp.location = some id)
    {settings : Settings} {tiers : PowerTiers} (ht : settings.tiers = some tiers)
    (hd : tiers.isDescending = true) (seed : Nat) :
    ∃ h, Hub.start settings { database := db } seed = .ok h ∧
      ∀ is, h.Along (fun h i => h.admits i = true) is →
        (∀ s location, (h.runSteps is).plant.ledger.database.isSmart s = true →
          (h.runSteps is).plant.ledger.database.locationOf? s = some location →
          ∀ i c, (h.runSteps is).plant.ledger.registry.connector? s i = some c →
            (c.limit ≠ 0 ↔ c.isActive = true) ∧
            (c.limit ≠ 0 → c.limit = tiers.high ∨ c.limit = tiers.middle ∨
              c.limit = tiers.floor)) ∧
        ∀ before later, is = before ++ later →
          ∀ s i c, (h.runSteps before).plant.ledger.registry.connector? s i = some c → c.limit ≠ 0 →
            (∀ part, part <+: later → ∃ c',
              (h.runSteps (before ++ part)).plant.ledger.registry.connector? s i = some c' ∧
                c'.isActive = true) →
            ∃ c', (h.runSteps is).plant.ledger.registry.connector? s i = some c' ∧
              c'.limit = c.limit := by
  obtain ⟨h, hstart, ha⟩ := Hub.allotted_start hk hidle hnames ht seed
  refine ⟨h, hstart, fun is his => ⟨fun s location hsmart hl i c hc => ⟨?_, ?_⟩, ?_⟩⟩
  · exact (ha.runSteps hd his).follows s trivial hsmart (hl ▸ rfl) i c hc
  · have hlimit := (ha.runSteps hd his).inTiers s i
    rwa [Registry.limitAt_of_connector? hc] at hlimit
  · rintro before later rfl s i c hc hne hactive
    obtain ⟨hbefore, hlater⟩ := Hub.along_append.1 his
    rw [Hub.runSteps_append]
    refine (ha.runSteps hd hbefore).limit_runSteps hd hlater hc hne fun part hpart => ?_
    rw [← Hub.runSteps_append]
    exact hactive part hpart

def Database.vacantDepot : Database := Database.depot.putConnector "north" { id := 1 }

theorem Database.keyed_vacantDepot : Database.vacantDepot.Keyed :=
  Database.keyed_depot.putConnector _ _

def Ledger.vacantDepot : Ledger := (Ledger.load { database := .vacantDepot }).toOption.getD default

theorem Ledger.load_vacantDepot : Ledger.load { database := .vacantDepot } = .ok .vacantDepot := by
  decide +kernel

def Hub.vacantDepot : Hub where
  settings := Hub.depot.settings
  plant := { ledger := .vacantDepot, switchboard := {} }

theorem Hub.start_vacantDepot :
    Hub.start Hub.depot.settings { database := .vacantDepot } 0 = .ok .vacantDepot := by
  rw [start, Ledger.load_vacantDepot]
  rfl

namespace HubStep

def starts (connection : Nat) (connector : String) : HubStep :=
  .receive .epoch connection ("[2,\"a\",\"StartTransaction\",\x7b\"connectorId\":" ++ connector ++
    ",\"idTag\":\"tag\",\"meterStart\":0,\"timestamp\":\"2024-01-01T00:00:00Z\"\x7d]")

def stops (connection : Nat) : HubStep :=
  .receive .epoch connection ("[2,\"b\",\"StopTransaction\",\x7b\"meterStop\":9," ++
    "\"timestamp\":\"2024-01-01T01:00:00Z\",\"transactionId\":9\x7d]")

def morning : List HubStep := arrivals ++ [starts 2 "1"]

def day : List HubStep := [starts 1 "1", .flush, .handler .epoch (.balance "south"), stops 1, .tick]

end HubStep

theorem Database.idle_vacantDepot {s : String} {i : UInt32} {c : Connector}
    (h : Database.vacantDepot.connector? s i = some c) : c.isActive = false ∧ c.limit = 0 := by
  rw [vacantDepot, connector?_putConnector] at h
  split at h
  · obtain rfl := Option.some.inj h
    exact ⟨rfl, rfl⟩
  · next hne =>
    obtain ⟨hi, ⟨hs, -⟩ | ⟨-, rfl⟩⟩ := connector?_depot h
    · exact absurd ⟨hs, hi⟩ hne
    · exact ⟨rfl, rfl⟩

theorem allotted_runSteps_depot :
    let h := Hub.vacantDepot.runSteps (HubStep.morning ++ HubStep.day)
    Hub.vacantDepot.Along (fun h i => h.admits i = true) (HubStep.morning ++ HubStep.day) ∧
      (∀ s ∈ ["north", "south"], ∀ i c, h.plant.ledger.registry.connector? s i = some c →
        (c.limit ≠ 0 ↔ c.isActive = true) ∧
        (c.limit ≠ 0 → c.limit = 32 ∨ c.limit = 16 ∨ c.limit = 6)) ∧
      ∃ c, h.plant.ledger.registry.connector? "south" 1 = some c ∧ c.limit = 32 := by
  dsimp only
  have hnames : ∀ id location, Database.vacantDepot.locations.get? id = some location →
      ∀ s ∈ location.chargePoints, ∀ cp, Database.vacantDepot.chargePoints.get? s = some cp →
        cp.location = some id := by
    have hall : ∀ e ∈ Database.vacantDepot.locations.entries, ∀ s ∈ e.2.chargePoints,
        (Database.vacantDepot.chargePoints.get? s).all (·.location == some e.1) = true := by
      decide +kernel
    intro id location hl s hs cp hcp
    simpa [hcp] using hall _ (Table.mem_entries_iff.2 hl) s hs
  obtain ⟨h₀, hstart, hrun⟩ := allotted_runSteps Database.keyed_vacantDepot
    (fun _ _ _ => Database.idle_vacantDepot) hnames
    (show Hub.depot.settings.tiers = some ⟨32, 16, 6⟩ from rfl) (by decide) 0
  obtain rfl := Except.ok.inj (Hub.start_vacantDepot.symm.trans hstart)
  have hadmits : Hub.vacantDepot.Along (fun h i => h.admits i = true)
      (HubStep.morning ++ HubStep.day) := by decide +kernel
  obtain ⟨hlimits, hkeeps⟩ := hrun _ hadmits
  refine ⟨hadmits, fun s hs i c hc => ?_, ?_⟩
  · have hsite : ∀ s ∈ ["north", "south"],
        (Hub.vacantDepot.runSteps
          (HubStep.morning ++ HubStep.day)).plant.ledger.database.isSmart s =
            true ∧
          (Hub.vacantDepot.runSteps
            (HubStep.morning ++ HubStep.day)).plant.ledger.database.locationOf?
            s = some ⟨"depot", "Depot", 32, 64, ["north"]⟩ := by
      decide +kernel
    exact hlimits s _ (hsite s hs).1 (hsite s hs).2 i c hc
  · have hmorning : ((Hub.vacantDepot.runSteps HubStep.morning).plant.ledger.registry.connector?
        "south" 1).any (·.limit = 32) = true := by decide +kernel
    have hactive : ∀ part ∈ HubStep.day.inits,
        ((Hub.vacantDepot.runSteps (HubStep.morning ++ part)).plant.ledger.registry.connector?
          "south" 1).any (·.isActive) = true := by decide +kernel
    obtain ⟨c, hc, h32⟩ := (Option.any_eq_true _ _).1 hmorning
    have h32 : c.limit = 32 := by simpa using h32
    obtain ⟨c', hc', hlimit⟩ := hkeeps _ _ rfl "south" 1 c hc (by rw [h32]; decide)
      fun part hpart => (Option.any_eq_true _ _).1 (hactive part ((List.mem_inits _ _).2 hpart))
    exact ⟨c', hc', hlimit.trans h32⟩

end CentralSystem
