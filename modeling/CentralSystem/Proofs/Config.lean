import CentralSystem.Config
import CentralSystem.Proofs.Tiers

namespace CentralSystem

theorem Table.get?_foldl_insert {κ α β : Type} [Ord κ] [DecidableEq κ] [Std.TransOrd κ]
    [Std.LawfulEqOrd κ] (key : β → κ) (value : β → α) (l : List β) (t : Table κ α) (k : κ) :
    (l.foldl (fun t b => t.insert (key b) (value b)) t).get? k =
      ((l.reverse.find? (key · = k)).map value).or (t.get? k) := by
  induction l generalizing t with
  | nil => rfl
  | cons b l ih =>
    rw [List.foldl_cons, ih, List.reverse_cons, List.find?_append, Table.get?_insert]
    cases l.reverse.find? (key · = k) with
    | some b' => rfl
    | none =>
      by_cases hk : key b = k
      · simp [hk]
      · simp [hk, Ne.symm hk]

namespace Database

theorem foldl_putLocation (ls : List Location) (db : Database) : ls.foldl putLocation db =
    { db with locations := ls.foldl (fun t l => t.insert l.id l) db.locations } := by
  induction ls generalizing db with
  | nil => rfl
  | cons l ls ih => exact ih _

theorem foldl_putChargePoint (f : ChargePoint → ChargePoint) (cps : List ChargePoint)
    (db : Database) : cps.foldl (fun db cp => db.putChargePoint (f cp)) db =
      { db with
        chargePoints := cps.foldl (fun t cp => t.insert (f cp).id (f cp)) db.chargePoints } := by
  induction cps generalizing db with
  | nil => rfl
  | cons cp cps ih => exact ih _

theorem foldl_putTag (tags : List UserTag) (db : Database) :
    ∃ table, tags.foldl putTag db = { db with tags := table } := by
  induction tags generalizing db with
  | nil => exact ⟨db.tags, rfl⟩
  | cons tag tags ih =>
    obtain ⟨table, h⟩ := ih (db.putTag tag)
    exact ⟨table, h⟩

end Database

namespace Config

variable (c : Config)

def locationNamed? (id : String) : Option Location := c.locations.reverse.find? (·.id = id)

def chargePointNamed? (s : String) : Option ChargePoint := c.chargePoints.reverse.find? (·.id = s)

def Lists (id s : String) : Prop :=
  ∃ location, c.locationNamed? id = some location ∧ s ∈ location.chargePoints

/-- Where a charge point on record is put: at the location that is given for it, or else at the
first that lists it. -/
def siteOf? (s : String) : Option String :=
  (c.chargePointNamed? s).bind fun cp =>
    cp.location <|> (c.locations.find? (s ∈ ·.chargePoints)).map (·.id)

theorem id_place (cp : ChargePoint) : (c.place cp).id = cp.id := by
  unfold place
  split <;> rfl

theorem location_place (cp : ChargePoint) : (c.place cp).location =
    (cp.location <|> (c.locations.find? (cp.id ∈ ·.chargePoints)).map (·.id)) := by
  unfold place
  split
  · next h => simp [h]
  · next h => simp [h]

theorem tables_database :
    c.database.locations = c.locations.foldl (fun t l => t.insert l.id l) ∅ ∧
      c.database.chargePoints =
        c.chargePoints.foldl (fun t cp => t.insert cp.id (c.place cp)) ∅ := by
  obtain ⟨tags, htags⟩ := Database.foldl_putTag c.userTags
    (c.chargePoints.foldl (fun db cp => db.putChargePoint (c.place cp))
      (c.locations.foldl Database.putLocation {}))
  rw [database, htags, Database.foldl_putChargePoint, Database.foldl_putLocation]
  simp only [id_place, and_self]

theorem locations_get?_database (id : String) :
    c.database.locations.get? id = c.locationNamed? id := by
  rw [(tables_database c).1, Table.get?_foldl_insert Location.id fun l => l]
  simp [locationNamed?]

theorem named?_database (s : String) : c.database.named? s = c.siteOf? s := by
  rw [Database.named?, (tables_database c).2, Table.get?_foldl_insert ChargePoint.id c.place,
    siteOf?, chargePointNamed?]
  cases hcp : c.chargePoints.reverse.find? (·.id = s) with
  | none => rfl
  | some cp =>
    have hid : cp.id = s := by simpa using List.find?_some hcp
    simp [location_place, hid]

theorem belongs_database {s id : String} : c.database.Belongs s id ↔
    ∃ location, c.locationNamed? id = some location ∧
      (s ∈ location.chargePoints ∨ c.siteOf? s = some id) := by
  rw [Database.Belongs, locations_get?_database, named?_database]

variable {c}

theorem isSome_locationNamed?_iff {id : String} :
    (c.locationNamed? id).isSome = true ↔ ∃ l ∈ c.locations, l.id = id := by
  simp [locationNamed?]

theorem isSome_siteOf? {s id : String} {cp : ChargePoint} (hcp : c.chargePointNamed? s = some cp)
    (hl : c.Lists id s) : ∃ id', c.siteOf? s = some id' := by
  obtain ⟨location, hloc, hs⟩ := hl
  have hmem : location ∈ c.locations := List.mem_reverse.1 (List.mem_of_find?_eq_some hloc)
  have hfirst : (c.locations.find? (s ∈ ·.chargePoints)).isSome = true :=
    List.find?_isSome.2 ⟨location, hmem, by simpa using hs⟩
  obtain ⟨first, hfirst⟩ := Option.isSome_iff_exists.1 hfirst
  rw [siteOf?, hcp, Option.bind_some, hfirst]
  cases cp.location with
  | some id' => exact ⟨id', rfl⟩
  | none => exact ⟨first.id, rfl⟩

section Valid

variable (h : c.validate = .ok c)
include h

theorem stray?_eq_none : c.stray? = none := by
  have hfault : c.fault? = none := by
    unfold validate at h
    split at h
    · cases h
    · assumption
  unfold fault? at hfault
  split_ifs at hfault
  exact Option.map_eq_none_iff.1 hfault

theorem exists_of_location {cp : ChargePoint} (hcp : cp ∈ c.chargePoints) {id : String}
    (hid : cp.location = some id) : ∃ l ∈ c.locations, l.id = id := by
  have hnone := List.findSome?_eq_none_iff.1 (stray?_eq_none h) cp hcp
  simpa [hid] using hnone

theorem isSome_of_siteOf? {s id : String} (hs : c.siteOf? s = some id) :
    ∃ location, c.locationNamed? id = some location := by
  refine Option.isSome_iff_exists.1 (isSome_locationNamed?_iff.2 ?_)
  obtain ⟨cp, hcp, hid⟩ := Option.bind_eq_some_iff.1 hs
  have hmem : cp ∈ c.chargePoints := List.mem_reverse.1 (List.mem_of_find?_eq_some hcp)
  cases hloc : cp.location with
  | some id' =>
    obtain rfl : id' = id := by simpa [hloc] using hid
    exact exists_of_location h hmem hloc
  | none =>
    obtain ⟨l, hl, rfl⟩ : ∃ l, c.locations.find? (s ∈ ·.chargePoints) = some l ∧ l.id = id := by
      simpa [hloc] using hid
    exact ⟨l, List.mem_of_find?_eq_some hl, rfl⟩

theorem belongs_iff {s id : String} :
    c.database.Belongs s id ↔ c.Lists id s ∨ c.siteOf? s = some id := by
  rw [belongs_database]
  constructor
  · rintro ⟨location, hloc, hs | hs⟩
    · exact .inl ⟨location, hloc, hs⟩
    · exact .inr hs
  · rintro (⟨location, hloc, hs⟩ | hs)
    · exact ⟨location, hloc, .inl hs⟩
    · obtain ⟨location, hloc⟩ := isSome_of_siteOf? h hs
      exact ⟨location, hloc, .inr hs⟩

/-- In the database of a valid configuration every location that a record names is there. A charge
point on record belongs to one location at most just when each location that lists it is the one at
which it is put; one that is not on record, just when at most one location lists it. -/
theorem sites_of_validate :
    (∀ s, c.database.named? s = c.siteOf? s) ∧
      (∀ s id, c.database.named? s = some id → ∃ location, c.database.locations.get? id =
        some location) ∧
      (∀ s cp, c.chargePointNamed? s = some cp →
        ({id | c.database.Belongs s id}.Subsingleton ↔
          ∀ id, c.Lists id s → c.siteOf? s = some id)) ∧
      ∀ s, c.chargePointNamed? s = none →
        ({id | c.database.Belongs s id}.Subsingleton ↔ {id | c.Lists id s}.Subsingleton) := by
  refine ⟨c.named?_database, fun s id hs => ?_, fun s cp hcp => ?_, fun s hcp => ?_⟩
  · rw [locations_get?_database]
    exact isSome_of_siteOf? h (c.named?_database s ▸ hs)
  · constructor
    · intro hone id hl
      obtain ⟨id', hsite⟩ := isSome_siteOf? hcp hl
      rw [hsite, hone ((belongs_iff h).2 (.inl hl)) ((belongs_iff h).2 (.inr hsite))]
    · intro hl id hid id' hid'
      have hsite {id : String} (hb : c.database.Belongs s id) : c.siteOf? s = some id :=
        ((belongs_iff h).1 hb).elim (hl id) fun hs => hs
      exact Option.some.inj ((hsite hid).symm.trans (hsite hid'))
  · have hsite (id : String) : c.siteOf? s ≠ some id := by simp [siteOf?, hcp]
    have hb : {id | c.database.Belongs s id} = {id | c.Lists id s} :=
      Set.ext fun id => (belongs_iff h).trans (or_iff_left (hsite id))
    rw [hb]

end Valid

def depot : Config where
  locations := [⟨"depot", "Depot", 32, 64, ["north"]⟩]
  chargePoints := [{ id := "north", smartCharging := true },
    { id := "south", location := some "depot", smartCharging := true }]

theorem sites_of_validate_depot : depot.validate = .ok depot ∧
    depot.database.named? "north" = some "depot" ∧
    {id | depot.database.Belongs "north" id}.Subsingleton ∧
    {id | depot.database.Belongs "west" id}.Subsingleton := by
  have hvalid : depot.validate = .ok depot := by decide +kernel
  obtain ⟨hnamed, -, hrecord, hnone⟩ := sites_of_validate hvalid
  have hlists {id s : String} (h : depot.Lists id s) : id = "depot" ∧ s = "north" := by
    obtain ⟨location, hloc, hs⟩ := h
    have hmem := List.mem_of_find?_eq_some hloc
    simp only [depot, List.reverse_singleton, List.mem_singleton] at hmem
    subst hmem
    have hid : "depot" = id := by simpa using List.find?_some hloc
    exact ⟨hid.symm, by simpa using hs⟩
  refine ⟨hvalid, (hnamed "north").trans (by decide +kernel), ?_, ?_⟩
  · refine (hrecord "north" { id := "north", smartCharging := true } (by decide +kernel)).2 ?_
    intro id hl
    rw [(hlists hl).1]
    decide +kernel
  · refine (hnone "west" (by decide +kernel)).2 fun id hl => ?_
    exact absurd (hlists hl).2 (by decide)

def overlap : Config where
  locations := [⟨"depot", "Depot", 32, 64, ["north"]⟩, ⟨"harbor", "Harbor", 32, 64, ["north"]⟩]
  chargePoints := [{ id := "north", smartCharging := true }]

/-- It is valid all the same, and the charge point belongs to both. -/
theorem overlap_belongs_twice : overlap.validate = .ok overlap ∧
    overlap.database.Belongs "north" "depot" ∧ overlap.database.Belongs "north" "harbor" ∧
    ¬{id | overlap.database.Belongs "north" id}.Subsingleton := by
  have hdepot : overlap.database.Belongs "north" "depot" :=
    ⟨⟨"depot", "Depot", 32, 64, ["north"]⟩, by decide +kernel, .inl (by decide)⟩
  have hharbor : overlap.database.Belongs "north" "harbor" :=
    ⟨⟨"harbor", "Harbor", 32, 64, ["north"]⟩, by decide +kernel, .inl (by decide)⟩
  exact ⟨by decide +kernel, hdepot, hharbor, fun h => absurd (h hdepot hharbor) (by decide)⟩

end Config

end CentralSystem
