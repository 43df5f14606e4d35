import CentralSystem.Plant
import CentralSystem.Proofs.Ledger.Sites
import Mathlib.Data.List.Nodup

namespace CentralSystem

theorem filterAuxM_ok {α ε : Type} (p : α → Bool) (l acc : List α) :
    List.filterAuxM (fun a => (.ok (p a) : Except ε Bool)) l acc =
      .ok ((l.filter p).reverse ++ acc) := by
  induction l generalizing acc with
  | nil => rfl
  | cons a rest ih =>
    refine (ih (cond (p a) (a :: acc) acc)).trans ?_
    cases h : p a <;> simp [h]

theorem filterM_ok {α ε : Type} (p : α → Bool) (l : List α) :
    l.filterM (fun a => (.ok (p a) : Except ε Bool)) = .ok (l.filter p) := by
  unfold List.filterM
  rw [filterAuxM_ok]
  simp [bind, Except.bind, pure, Except.pure]

theorem nodup_flatMap_pair {α κ ι : Type} {l : List α} {f : α → κ} {g : α → List ι}
    (hl : (l.map f).Nodup) (hg : ∀ a ∈ l, (g a).Nodup) :
    (l.flatMap fun a => (g a).map (f a, ·)).Nodup := by
  apply List.nodup_flatMap.2
  constructor
  · intro a ha
    exact (hg a ha).map fun _ _ h => (Prod.mk.inj h).2
  · apply (List.pairwise_map.1 hl).imp
    intro a b hne k hk hk'
    obtain ⟨_, -, rfl⟩ := List.mem_map.1 hk
    obtain ⟨_, -, he⟩ := List.mem_map.1 hk'
    exact hne (congrArg Prod.fst he).symm

namespace PowerTiers

def picks (tiers : PowerTiers) : List Int32 → Nat → List Int32
  | _, 0 => []
  | held, n + 1 => tiers.pick held :: tiers.picks (held ++ [tiers.pick held]) n

@[simp] theorem length_picks (tiers : PowerTiers) (held : List Int32) (n : Nat) :
    (tiers.picks held n).length = n := by
  induction n generalizing held with
  | zero => rfl
  | succ n ih => simp [picks, ih]

end PowerTiers

namespace Plant

def total : List Int32 → Int
  | [] => 0
  | x :: amps => x.toInt + total amps

@[simp] theorem total_nil : total [] = 0 := rfl

@[simp] theorem total_cons (x : Int32) (amps : List Int32) :
    total (x :: amps) = x.toInt + total amps := rfl

/-- The sum has room in 32 bits, and so has each sum on the way. -/
def AddsUp (amps : List Int32) : Prop :=
  ∀ first, first <+: amps → -2 ^ 31 ≤ total first ∧ total first < 2 ^ 31

theorem add?_eq_some_iff {a b sum : Int32} : add? a b = some sum ↔
    sum.toInt = a.toInt + b.toInt := by
  have hlo := sum.le_toInt
  have hhi := sum.toInt_lt
  simp only [add?, Option.ite_none_right_eq_some, Option.some.injEq]
  constructor
  · rintro ⟨⟨h, h'⟩, rfl⟩
    exact Int32.toInt_ofInt_of_le h h'
  · intro h
    rw [← h]
    exact ⟨⟨hlo, hhi⟩, Int32.ofInt_toInt sum⟩

/-- Amounts are added to a sum just when each of them on the way is, and what comes out is exact. -/
theorem foldlM_add?_eq_some_iff {amps : List Int32} {x sum : Int32} :
    amps.foldlM add? x = some sum ↔
      (∀ first, first <+: amps → -2 ^ 31 ≤ x.toInt + total first ∧ x.toInt + total first < 2 ^ 31) ∧
        sum.toInt = x.toInt + total amps := by
  induction amps generalizing x with
  | nil =>
    have hx : -2 ^ 31 ≤ x.toInt ∧ x.toInt < 2 ^ 31 := ⟨x.le_toInt, x.toInt_lt⟩
    simp only [List.foldlM_nil, List.prefix_nil, forall_eq, total_nil, Int.add_zero, hx,
      Int32.toInt_inj]
    exact Option.some_inj.trans eq_comm |>.trans (by simp)
  | cons y rest ih =>
    rw [List.foldlM_cons, Option.bind_eq_bind, Option.bind_eq_some_iff]
    constructor
    · rintro ⟨z, hz, h⟩
      rw [add?_eq_some_iff] at hz
      rw [ih, hz] at h
      obtain ⟨hrange, hsum⟩ := h
      refine ⟨fun first hfirst => ?_, by rw [hsum, total_cons, Int.add_assoc]⟩
      rcases List.prefix_cons_iff.1 hfirst with rfl | ⟨first, rfl, hrest⟩
      · simpa using ⟨x.le_toInt, x.toInt_lt⟩
      · rw [total_cons, ← Int.add_assoc]
        exact hrange first hrest
    · rintro ⟨hrange, hsum⟩
      obtain ⟨hlo, hhi⟩ := hrange [y] (by simp)
      simp only [total_cons, total_nil, Int.add_zero] at hlo hhi
      have hz : (Int32.ofInt (x.toInt + y.toInt)).toInt = x.toInt + y.toInt :=
        Int32.toInt_ofInt_of_le hlo hhi
      refine ⟨_, add?_eq_some_iff.2 hz, ih.2 ⟨fun first hfirst => ?_, ?_⟩⟩
      · rw [hz, Int.add_assoc, ← total_cons]
        exact hrange _ (List.prefix_cons_inj y |>.2 hfirst)
      · rw [hz, hsum, total_cons, Int.add_assoc]

theorem addUp?_eq_some_iff {amps : List Int32} {sum : Int32} :
    addUp? amps = some sum ↔ AddsUp amps ∧ sum.toInt = total amps := by
  rw [addUp?, foldlM_add?_eq_some_iff, AddsUp]
  simp only [Int32.toInt_zero, Int.zero_add]

theorem exists_addUp?_eq {amps : List Int32} (h : AddsUp amps) : ∃ sum, addUp? amps = some sum := by
  obtain ⟨hlo, hhi⟩ := h amps List.prefix_rfl
  exact ⟨_, addUp?_eq_some_iff.2 ⟨h, Int32.toInt_ofInt_of_le hlo hhi⟩⟩

theorem addUp?_eq_none_iff {amps : List Int32} : addUp? amps = none ↔ ¬AddsUp amps := by
  rw [← Option.not_isSome_iff_eq_none, not_iff_not, Option.isSome_iff_exists]
  constructor
  · rintro ⟨sum, hsum⟩
    exact (addUp?_eq_some_iff.1 hsum).1
  · exact exists_addUp?_eq

instance (amps : List Int32) : Decidable (AddsUp amps) :=
  decidable_of_iff (¬(addUp? amps = none)) (not_iff_comm.1 addUp?_eq_none_iff.symm)

abbrev connectorKey (e : String × Connector) : String × UInt32 := (e.1, e.2.id)

/-- A connector of a station, and the limit that it is to have. -/
abbrev Assignment := (String × Connector) × Int32

def Assignment.key (a : Assignment) : String × UInt32 := (a.1.1, a.1.2.id)

def Assignment.connector (a : Assignment) : Connector := { a.1.2 with limit := a.2 }

def Assignment.grant (a : Assignment) : Grant := ⟨a.1.1, a.1.2.id, a.1.2.transaction, a.2⟩

def assign (l : Ledger) (as : List Assignment) : Ledger :=
  as.foldl (fun l a => setLimit l a.1.1 a.1.2 a.2) l

/-- The connectors that have a limit and no transaction. -/
def idle (cs : List (String × Connector)) : List (String × Connector) :=
  cs.filter fun e => !e.2.isActive && e.2.limit != 0

/-- The limits that stay. -/
def held (cs : List (String × Connector)) : List Int32 :=
  ((cs.filter (·.2.isActive)).map (·.2.limit)).filter (· != 0)

/-- The connectors that have a transaction and no limit. -/
def waiting (cs : List (String × Connector)) : List (String × Connector) :=
  (cs.filter (·.2.isActive)).filter (·.2.limit == 0)

/-- The limits that are held in the end: those that stay, and those that are granted. -/
def heldAfter (tiers : PowerTiers) (cs : List (String × Connector)) : List Int32 :=
  held cs ++ tiers.picks (held cs) (waiting cs).length

def granted (tiers : PowerTiers) (cs : List (String × Connector)) : List Assignment :=
  (waiting cs).zip (tiers.picks (held cs) (waiting cs).length)

def assignments (tiers : PowerTiers) (cs : List (String × Connector)) : List Assignment :=
  (idle cs).map (·, 0) ++ granted tiers cs

variable {l : Ledger} {p : Plant}

theorem takeBack_eq (cs : List (String × Connector)) :
    takeBack l cs = assign l ((idle cs).map (·, 0)) := by
  simp [takeBack, idle, assign, List.foldl_map]

theorem grant_eq (tiers : PowerTiers) (held : List Int32) (cs : List (String × Connector)) :
    grant tiers l held cs = ((cs.zip (tiers.picks held cs.length)).map Assignment.grant,
      held ++ tiers.picks held cs.length, assign l (cs.zip (tiers.picks held cs.length))) := by
  induction cs generalizing l held with
  | nil => simp [grant, assign, PowerTiers.picks]
  | cons e rest ih =>
    simp only [grant, List.length_cons, PowerTiers.picks, List.zip_cons_cons, List.map_cons]
    rw [ih]
    simp [assign, Assignment.grant]

/-- Sharing out the power assigns limits, and tells of those that are granted. -/
theorem shareOut_eq (tiers : PowerTiers) (now : Timestamp) (location : Location)
    (cs : List (String × Connector)) :
    p.shareOut tiers now location cs =
      Plant.announce { p with ledger := assign p.ledger (assignments tiers cs) } now location
        ((granted tiers cs).map Assignment.grant) (heldAfter tiers cs) := by
  have hs : p.shareOut tiers now location cs =
      Plant.announce
        { p with ledger := (grant tiers (takeBack p.ledger cs) (held cs) (waiting cs)).2.2 } now
        location (grant tiers (takeBack p.ledger cs) (held cs) (waiting cs)).1
        (grant tiers (takeBack p.ledger cs) (held cs) (waiting cs)).2.1 := rfl
  rw [hs, grant_eq, takeBack_eq]
  simp only [assignments, granted, heldAfter, assign, List.foldl_append]

def announced (tiers : PowerTiers) (cs : List (String × Connector)) : Option (List Grant) :=
  (addUp? (heldAfter tiers cs)).map fun _ => (granted tiers cs).map Assignment.grant

theorem announced_of_addsUp {tiers : PowerTiers} {cs : List (String × Connector)}
    (h : AddsUp (heldAfter tiers cs)) :
    announced tiers cs = some ((granted tiers cs).map Assignment.grant) := by
  obtain ⟨sum, hsum⟩ := exists_addUp?_eq h
  rw [announced, hsum]
  rfl

theorem shareOut_fst (tiers : PowerTiers) (now : Timestamp) (location : Location)
    (cs : List (String × Connector)) :
    (p.shareOut tiers now location cs).1 = announced tiers cs := by
  rw [shareOut_eq, announce, announced]
  cases addUp? (heldAfter tiers cs) <;> rfl

theorem mem_announced {tiers : PowerTiers} {cs : List (String × Connector)} {g : Grant} :
    g ∈ (announced tiers cs).getD [] ↔
      AddsUp (heldAfter tiers cs) ∧ ∃ a ∈ granted tiers cs, a.grant = g := by
  rw [announced]
  cases h : addUp? (heldAfter tiers cs) with
  | none => simp [addUp?_eq_none_iff.1 h]
  | some sum => simp [(addUp?_eq_some_iff.1 h).1]

theorem quiet_command (station : String) (c : Command) (failed : Error → Notice) :
    (p.command station c failed).ledger.quiet = p.ledger.quiet := by
  unfold command
  split <;> rfl

theorem quiet_sendGrant (now : Timestamp) (g : Grant) :
    (sendGrant now p g).ledger.quiet = p.ledger.quiet := by
  unfold sendGrant
  split
  · exact quiet_command ..
  · rfl

theorem quiet_foldl_sendGrant (now : Timestamp) (grants : List Grant) :
    (grants.foldl (sendGrant now) p).ledger.quiet = p.ledger.quiet := by
  induction grants generalizing p with
  | nil => rfl
  | cons g rest ih => exact ih.trans (quiet_sendGrant now g)

theorem quiet_checkTotal (location : Location) (sum : Int32) :
    (p.checkTotal location sum).ledger.quiet = p.ledger.quiet := by
  unfold checkTotal
  split <;> rfl

theorem quiet_announce (now : Timestamp) (location : Location) (grants : List Grant)
    (held : List Int32) : (p.announce now location grants held).2.ledger.quiet = p.ledger.quiet := by
  unfold announce
  split
  · rfl
  · exact (quiet_foldl_sendGrant ..).trans (quiet_checkTotal ..)

theorem quiet_shareOut (tiers : PowerTiers) (now : Timestamp) (location : Location)
    (cs : List (String × Connector)) :
    (p.shareOut tiers now location cs).2.ledger.quiet =
      (assign p.ledger (assignments tiers cs)).quiet := by
  rw [shareOut_eq, quiet_announce]

section Whole

variable (hw : l.storage.broken = [])
include hw

theorem quiet_setLimit (station : String) (c : Connector) (limit : Int32) :
    (setLimit l station c limit).quiet =
      (l.quiet.setRegistry (l.registry.setConnector station { c with limit := limit })).setDatabase
        (l.database.limitConnector station c.id limit) :=
  Ledger.quiet_updateConnectorLimit
    (l := l.setRegistry (l.registry.setConnector station { c with limit := limit })) hw _ _ _ _

/-- Connectors that are assigned a limit, each of them once, have it; the others stay as they are.
-/
theorem changes_assign (settings : Settings) (as : List Assignment)
    (hn : (as.map Assignment.key).Nodup)
    (hc : ∀ a ∈ as, l.registry.connector? a.1.1 a.1.2.id = some a.1.2) :
    Changes settings true 0 l.quiet (assign l as).quiet ∧
      ∀ s i, (assign l as).registry.connector? s i =
        ((as.find? (·.key = (s, i))).map Assignment.connector).or
          (l.registry.connector? s i) := by
  induction as generalizing l with
  | nil => exact ⟨.refl _, fun s i => by simp [assign]⟩
  | cons a rest ih =>
    obtain ⟨ha, hr⟩ := List.nodup_cons.1 hn
    have hq := quiet_setLimit hw a.1.1 a.1.2 a.2
    have hfirst : Changes settings true 0 l.quiet (setLimit l a.1.1 a.1.2 a.2).quiet := by
      rw [hq]
      exact .one (.limit (l := l.quiet) rfl a.2 (hc a List.mem_cons_self))
    have hset (s : String) (i : UInt32) :
        (setLimit l a.1.1 a.1.2 a.2).registry.connector? s i =
          if s = a.1.1 ∧ i = a.1.2.id then some a.connector
          else l.registry.connector? s i := by
      rw [Ledger.registry_of_quiet hq]
      exact Registry.connector?_setConnector
        (Registry.knows_of_connector? (hc a List.mem_cons_self)) _ _ _
    obtain ⟨hch, hcon⟩ := ih (l := setLimit l a.1.1 a.1.2 a.2) (hfirst.broken.trans hw) hr (by
      intro b hb
      rw [hset, if_neg]
      · exact hc b (List.mem_cons_of_mem _ hb)
      · rintro ⟨h1, h2⟩
        exact ha (List.mem_map.2 ⟨b, hb, Prod.ext h1 h2⟩))
    refine ⟨hfirst.trans hch, fun s i => ?_⟩
    have hassign : assign l (a :: rest) = assign (setLimit l a.1.1 a.1.2 a.2) rest := rfl
    rw [hassign, hcon, hset]
    by_cases hk : a.key = (s, i)
    · obtain ⟨rfl, rfl⟩ := Prod.mk.inj hk
      have hnone : rest.find? (·.key = (a.1.1, a.1.2.id)) = none := by
        simp only [List.find?_eq_none, decide_eq_true_eq]
        exact fun b hb he => ha (List.mem_map.2 ⟨b, hb, he⟩)
      rw [hnone, List.find?_cons_of_pos (by simp [hk]), if_pos ⟨rfl, rfl⟩]
      rfl
    · have hk' : ¬(s = a.1.1 ∧ i = a.1.2.id) := by
        rintro ⟨rfl, rfl⟩
        exact hk rfl
      simp [hk, hk']

end Whole

section Assignments

variable {tiers : PowerTiers} {cs : List (String × Connector)}

theorem mem_of_mem_assignments {a : Assignment} (h : a ∈ assignments tiers cs) :
    a.1 ∈ cs ∧ (a.2 = 0 ∨ a ∈ granted tiers cs) := by
  rcases List.mem_append.1 h with h | h
  · obtain ⟨e, he, rfl⟩ := List.mem_map.1 h
    exact ⟨(List.mem_filter.1 he).1, .inl rfl⟩
  · exact ⟨(List.mem_filter.1 (List.mem_filter.1 (List.of_mem_zip h).1).1).1, .inr h⟩

theorem nodup_assignments (hn : (cs.map connectorKey).Nodup) :
    ((assignments tiers cs).map Assignment.key).Nodup := by
  have hidle : ((idle cs).map (·, (0 : Int32))).map Assignment.key =
      (idle cs).map connectorKey := by
    rw [List.map_map]
    rfl
  have hgranted : (granted tiers cs).map Assignment.key = (waiting cs).map connectorKey := by
    have hfst : (granted tiers cs).map Prod.fst = waiting cs :=
      List.map_fst_zip (Nat.le_of_eq (by simp))
    rw [← hfst, List.map_map]
    rfl
  rw [assignments, List.map_append, hidle, hgranted, List.nodup_append]
  refine ⟨hn.sublist (List.filter_sublist.map _),
    hn.sublist ((List.filter_sublist.trans List.filter_sublist).map _), ?_⟩
  intro k hk k' hk' he
  subst he
  obtain ⟨e, he, rfl⟩ := List.mem_map.1 hk
  obtain ⟨e', he', heq⟩ := List.mem_map.1 hk'
  simp only [idle, waiting, List.mem_filter, Bool.and_eq_true, Bool.not_eq_eq_eq_not,
    Bool.not_true] at he he'
  obtain rfl := List.inj_on_of_nodup_map hn he'.1.1 he.1 heq
  simp [he.2.1] at he'

end Assignments

/-- The charge points of a location, as a sharing of power that one of them asks for sees them. -/
def site (l : Ledger) (location : Location) (station : String) : List String :=
  let naming := l.registry.stations.keys.filter fun id =>
    !decide (id ∈ location.chargePoints) && l.database.named? id == some location.id
  (Table.ofList ((location.chargePoints ++ station :: naming).map (·, ()))).keys

def smartConnectors (l : Ledger) (members : List String) : List (String × Connector) :=
  (members.filter l.database.isSmart).flatMap fun id =>
    ((l.registry.stations.get? id).elim [] (·.connectors.values)).map (id, ·)

/-- The limits that are set when a charge point asks for a sharing of power. -/
def plan (tiers : PowerTiers) (l : Ledger) (location : Location) (station : String) :
    List Assignment :=
  assignments tiers (smartConnectors l (site l location station))

theorem mem_site {location : Location} {station s : String} :
    s ∈ site l location station ↔ s ∈ location.chargePoints ∨ s = station ∨
      (l.registry.knows s = true ∧ l.database.named? s = some location.id) := by
  have hk : s ∈ l.registry.stations.keys ↔ l.registry.knows s = true :=
    Table.mem_keys_iff.trans Table.contains_iff.symm
  simp only [site, Table.mem_keys_ofList, List.mem_map, List.mem_append, List.mem_cons,
    List.mem_filter, Prod.mk.injEq, and_true, Bool.and_eq_true, Bool.not_eq_eq_eq_not,
    Bool.not_true, decide_eq_false_iff_not, beq_iff_eq]
  constructor
  · rintro ⟨_, s', h, rfl⟩
    rcases h with h | h | ⟨h1, _, h2⟩
    · exact .inl h
    · exact .inr (.inl h)
    · exact .inr (.inr ⟨hk.1 h1, h2⟩)
  · intro h
    by_cases hs : s ∈ location.chargePoints
    · exact ⟨(), s, .inl hs, rfl⟩
    · rcases h with h | h | ⟨h1, h2⟩
      · exact absurd h hs
      · exact ⟨(), s, .inr (.inl h), rfl⟩
      · exact ⟨(), s, .inr (.inr ⟨hk.2 h1, hs, h2⟩), rfl⟩

section Connectors

variable (hkey : ∀ s i c, l.registry.connector? s i = some c → c.id = i)
include hkey

theorem mem_smartConnectors {ms : List String} {e : String × Connector} :
    e ∈ smartConnectors l ms ↔ e.1 ∈ ms ∧ l.database.isSmart e.1 = true ∧
      l.registry.connector? e.1 e.2.id = some e.2 := by
  have hmem (s : String) (c : Connector) :
      c ∈ (l.registry.stations.get? s).elim [] (·.connectors.values) ↔
        l.registry.connector? s c.id = some c := by
    cases hs : l.registry.stations.get? s with
    | none => simp [Registry.connector?, hs]
    | some x =>
      simp only [Option.elim_some, Table.mem_values_iff, Registry.connector?, hs, Option.bind_some]
      constructor
      · rintro ⟨i, hc⟩
        have hi : c.id = i := hkey s i c (by simp [Registry.connector?, hs, hc])
        rwa [hi]
      · intro hc
        exact ⟨_, hc⟩
  obtain ⟨s, c⟩ := e
  simp only [smartConnectors, List.mem_flatMap, List.mem_filter, List.mem_map, Prod.mk.injEq]
  constructor
  · rintro ⟨_, ⟨h1, h2⟩, _, hc, rfl, rfl⟩
    exact ⟨h1, h2, (hmem _ _).1 hc⟩
  · rintro ⟨h1, h2, h3⟩
    exact ⟨s, ⟨h1, h2⟩, c, (hmem s c).2 h3, rfl, rfl⟩

theorem nodup_smartConnectors {ms : List String} (hms : ms.Nodup) :
    ((smartConnectors l ms).map connectorKey).Nodup := by
  have hids (s : String) : ((l.registry.stations.get? s).elim [] (·.connectors.values)).map (·.id) =
      (l.registry.stations.get? s).elim [] (·.connectors.keys) := by
    cases hs : l.registry.stations.get? s with
    | none => rfl
    | some x =>
      apply Table.map_values
      intro i c hc
      exact hkey s i c (by simp [Registry.connector?, hs, hc])
  have hkeys : (smartConnectors l ms).map connectorKey = (ms.filter l.database.isSmart).flatMap
      fun s => ((l.registry.stations.get? s).elim [] (·.connectors.keys)).map (s, ·) := by
    simp only [smartConnectors, List.map_flatMap, List.map_map, ← hids]
    rfl
  rw [hkeys]
  apply nodup_flatMap_pair (f := id)
  · rw [List.map_id]
    exact hms.filter _
  · intro s _
    cases l.registry.stations.get? s with
    | none => exact List.nodup_nil
    | some x => exact x.connectors.keys_nodup

end Connectors

theorem changes_plan (hw : l.storage.broken = []) (settings : Settings) (hk : l.Keyed)
    (tiers : PowerTiers) (location : Location) (station : String) :
    Changes settings true 0 l.quiet (assign l (plan tiers l location station)).quiet ∧
      ∀ s i, (assign l (plan tiers l location station)).registry.connector? s i =
        (((plan tiers l location station).find? (·.key = (s, i))).map Assignment.connector).or
          (l.registry.connector? s i) :=
  changes_assign hw settings _
    (nodup_assignments (nodup_smartConnectors hk.1.connector (Table.keys_nodup _)))
    fun _ ha => ((mem_smartConnectors hk.1.connector).1 (mem_of_mem_assignments ha).1).2.2

section Works

variable (hw : p.ledger.storage.Works .getChargePoint)
include hw

theorem members_of_works (location : Location) (station : String) :
    p.members location station = .ok (site p.ledger location station) := by
  have hf (id : String) : (do
      if id ∈ location.chargePoints then return false
      return (← p.ledger.storage.chargePoint? id).any (·.location == some location.id) :
        Except Error Bool) =
      .ok (!decide (id ∈ location.chargePoints) &&
        p.ledger.database.named? id == some location.id) := by
    simp only [Storage.chargePoint?, Storage.attempt_of_works hw]
    by_cases h : id ∈ location.chargePoints
    · simp [h, pure, Except.pure]
    · have hn : (p.ledger.database.chargePoints.get? id).any (·.location == some location.id) =
          (p.ledger.database.named? id == some location.id) := by
        unfold Database.named?
        cases p.ledger.database.chargePoints.get? id <;> rfl
      simp [h, pure, Except.pure, bind, Except.bind, hn]
  unfold members
  simp only [hf, filterM_ok]
  rfl

theorem connectors_of_works (ms : List String) :
    p.connectors ms = .ok (smartConnectors p.ledger ms) := by
  have hf (id : String) : (do
      return (← p.ledger.storage.chargePoint? id).any (·.smartCharging) : Except Error Bool) =
      .ok (p.ledger.database.isSmart id) := by
    simp only [Storage.chargePoint?, Storage.attempt_of_works hw]
    rfl
  unfold connectors
  simp only [hf, filterM_ok]
  rfl

variable (hl : p.ledger.storage.Works .getLocation) {location : Location} {station : String}
  (h : p.ledger.database.locationOf? station = some location)
include hl h

theorem locationOf_of_works : p.locationOf station = .ok (some location, p) := by
  obtain ⟨id, hid, hget⟩ := Option.bind_eq_some_iff.1 h
  rw [Database.named?] at hid
  simp only [locationOf, Storage.chargePoint?, Storage.location?, Storage.attempt_of_works hw,
    Storage.attempt_of_works hl, bind, Except.bind, hid, hget]
  rfl

theorem checkPowerLimit_of_works (tiers : PowerTiers) (now : Timestamp) :
    p.checkPowerLimit tiers now station = .ok (p.shareOut tiers now location
      (smartConnectors p.ledger (site p.ledger location station))) := by
  simp only [checkPowerLimit, locationOf_of_works hw hl h, members_of_works hw,
    connectors_of_works hw, bind, Except.bind]
  rfl

end Works

section Whole

variable (hw : p.ledger.storage.broken = [])
include hw

theorem locationOf_of_some {location : Location} {station : String}
    (h : p.ledger.database.locationOf? station = some location) :
    p.locationOf station = .ok (some location, p) :=
  locationOf_of_works (Storage.works_of_broken_eq_nil hw _) (Storage.works_of_broken_eq_nil hw _) h

theorem locationOf_of_none {station : String}
    (h : p.ledger.database.locationOf? station = none) :
    ∃ q, p.locationOf station = .ok (none, q) ∧ q.ledger.quiet = p.ledger.quiet ∧
      q.switchboard = p.switchboard := by
  simp only [locationOf, Storage.chargePoint?, Storage.location?,
    Storage.attempt_of_broken_eq_nil hw, bind, Except.bind]
  cases hid : (p.ledger.database.chargePoints.get? station).bind (·.location) with
  | none => exact ⟨p, rfl, rfl, rfl⟩
  | some id =>
    have hl : p.ledger.database.locations.get? id = none := by
      simpa [Database.locationOf?, Database.named?, hid] using h
    simp only [hl]
    exact ⟨_, rfl, rfl, rfl⟩

theorem checkPowerLimit_of_some {location : Location} {station : String}
    (h : p.ledger.database.locationOf? station = some location) (tiers : PowerTiers)
    (now : Timestamp) :
    p.checkPowerLimit tiers now station = .ok (p.shareOut tiers now location
      (smartConnectors p.ledger (site p.ledger location station))) :=
  checkPowerLimit_of_works (Storage.works_of_broken_eq_nil hw _)
    (Storage.works_of_broken_eq_nil hw _) h tiers now

theorem checkPowerLimit_of_none {station : String}
    (h : p.ledger.database.locationOf? station = none) (tiers : PowerTiers) (now : Timestamp) :
    ∃ q, p.checkPowerLimit tiers now station = .ok (some [], q) ∧ q.ledger.quiet = p.ledger.quiet ∧
      q.switchboard = p.switchboard := by
  obtain ⟨q, hq, hl⟩ := locationOf_of_none hw h
  refine ⟨q, ?_, hl⟩
  simp only [checkPowerLimit, hq, bind, Except.bind]
  rfl

theorem applyDefault_of_some {location : Location} {station : String}
    (h : p.ledger.database.locationOf? station = some location) (now : Timestamp) :
    p.applyDefault now station = .ok (p.command station (location.defaultProfile now)
      (.defaultProfileNotSent station)) := by
  simp only [applyDefault, locationOf_of_some hw h, bind, Except.bind]
  rfl

theorem applyDefault_of_none {station : String}
    (h : p.ledger.database.locationOf? station = none) (now : Timestamp) :
    ∃ q, p.applyDefault now station = .ok q ∧ q.ledger.quiet = p.ledger.quiet ∧
      q.switchboard = p.switchboard := by
  obtain ⟨q, hq, hl⟩ := locationOf_of_none hw h
  refine ⟨q, ?_, hl⟩
  simp only [applyDefault, hq, bind, Except.bind]
  rfl

theorem quiet_applyDefault (now : Timestamp) (station : String) :
    ∃ q, p.applyDefault now station = .ok q ∧ q.ledger.quiet = p.ledger.quiet := by
  cases hl : p.ledger.database.locationOf? station with
  | none =>
    obtain ⟨q, hq, hquiet, -⟩ := applyDefault_of_none hw hl now
    exact ⟨q, hq, hquiet⟩
  | some location => exact ⟨_, applyDefault_of_some hw hl now, quiet_command ..⟩

/-- The ledger after somebody has asked for a sharing of power: as it was where the charge point has
no location, and otherwise with the limits of this location set. -/
inductive SharesOut (tiers : PowerTiers) (station : String) (l l' : Ledger) : Prop
  | nothing (h : l'.quiet = l.quiet)
  | limits (location : Location) (hl : l.database.locationOf? station = some location)
      (h : l'.quiet = (assign l (plan tiers l location station)).quiet)

theorem sharesOut_checkPowerLimit (tiers : PowerTiers) (now : Timestamp) (station : String) :
    ∃ result q, p.checkPowerLimit tiers now station = .ok (result, q) ∧
      SharesOut tiers station p.ledger q.ledger := by
  cases hl : p.ledger.database.locationOf? station with
  | none =>
    obtain ⟨q, hq, hquiet, -⟩ := checkPowerLimit_of_none hw hl tiers now
    exact ⟨some [], q, hq, .nothing hquiet⟩
  | some location =>
    have hs := checkPowerLimit_of_some hw hl tiers now
    have hquiet := quiet_shareOut (p := p) tiers now location
      (smartConnectors p.ledger (site p.ledger location station))
    exact ⟨_, _, hs, .limits location hl hquiet⟩

end Whole

theorem SharesOut.changes {tiers : PowerTiers} {station : String} {l l' : Ledger}
    (h : SharesOut tiers station l l') (settings : Settings) (hw : l.storage.broken = [])
    (hk : l.Keyed) : Changes settings true 0 l.quiet l'.quiet := by
  cases h with
  | nothing h => exact h ▸ .refl _
  | limits location hl h => exact h ▸ (changes_plan hw settings hk tiers location station).1

end Plant

end CentralSystem
