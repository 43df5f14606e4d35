import CentralSystem.Proofs.Delivery
import CentralSystem.Proofs.Ledger.Ownership
import CentralSystem.Proofs.Requests

namespace CentralSystem

structure Effect.Same (e e' : Effect) : Prop where
  response : e.response.untimed = e'.response.untimed
  entries : e.entries.map Entry.unseen = e'.entries.map Entry.unseen
  errands : List.Forall₂ Errand.Same e.errands e'.errands

namespace Plant

variable {l l' : Ledger} {station : String}

theorem mem_site_of_tracks (ht : l.registry.Tracks l.database) {location : Location} {s : String} :
    s ∈ site l location station ↔
      s ∈ location.chargePoints ∨ s = station ∨ l.database.named? s = some location.id := by
  rw [mem_site]
  refine or_congr_right (or_congr_right (and_iff_right_of_imp fun hn => ?_))
  obtain ⟨cp, hcp, -⟩ := Option.bind_eq_some_iff.1 hn
  rw [ht.knows_eq, Table.contains_iff]
  exact ⟨cp, hcp⟩

section Congr

variable (hk : l.Keyed) (ht : l.registry.Tracks l.database) (ht' : l'.registry.Tracks l'.database)
  (hs : l.database.SameSites l'.database)
include ht ht' hs

theorem site_congr (location : Location) : site l' location station = site l location station := by
  refine congrArg Table.keys (Table.eq_of_mem_keys fun s => ?_)
  show s ∈ site l' location station ↔ s ∈ site l location station
  rw [mem_site_of_tracks ht, mem_site_of_tracks ht', hs.named]

omit ht ht' in
theorem smartConnectors_congr {ms : List String}
    (hr : ∀ s ∈ ms, l'.content (.rack s) = l.content (.rack s)) :
    smartConnectors l' ms = smartConnectors l ms := by
  have hsmart : l'.database.isSmart = l.database.isSmart := funext hs.smart
  unfold smartConnectors
  rw [hsmart]
  refine List.flatMap_congr fun s hmem => ?_
  have hrack := hr s (List.mem_filter.1 hmem).1
  have hvalues (m : Ledger) : (m.registry.stations.get? s).elim [] (·.connectors.values) =
      (m.content (.rack s)).elim [] Table.values := by
    show _ = ((m.registry.stations.get? s).map (·.connectors)).elim [] _
    cases m.registry.stations.get? s <;> rfl
  rw [hvalues, hvalues, hrack]

include hk

theorem smartConnectors_site_congr {location : Location}
    (hl : l.database.locationOf? station = some location)
    (hr : ∀ s, l.database.SharesSite station s → l'.content (.rack s) = l.content (.rack s)) :
    smartConnectors l' (site l' location station) =
      smartConnectors l (site l location station) := by
  rw [site_congr ht ht' hs]
  exact smartConnectors_congr hs fun s hmem =>
    hr s ⟨location, hl, Ledger.belongs_of_mem_site hk hl hmem⟩

end Congr

end Plant

theorem Grant.forall₂_errands (gs : List Grant) (now now' : Timestamp) :
    List.Forall₂ Errand.Same (gs.filterMap (·.errand? now)) (gs.filterMap (·.errand? now')) := by
  induction gs with
  | nil => exact .nil
  | cons g rest ih =>
    rcases g.command_cases with ⟨e, he⟩ | ⟨f, hf, hsame⟩
    · have hnone (t : Timestamp) : g.errand? t = none := by rw [errand?, he]; rfl
      rwa [List.filterMap_cons_none (hnone now), List.filterMap_cons_none (hnone now')]
    · have hsome (t : Timestamp) : g.errand? t = some (g.chargePoint, f t) := by
        rw [errand?, hf]
        rfl
      rw [List.filterMap_cons_some (hsome now), List.filterMap_cons_some (hsome now')]
      exact .cons ⟨rfl, hsame now now'⟩ ih

namespace Ledger

section Congr

variable {settings : Settings} {l l' : Ledger} {station : String} (hk : l.Keyed)
  (ht : l.registry.Tracks l.database) (ht' : l'.registry.Tracks l'.database)
  (hs : l.database.SameSites l'.database)
  (hr : ∀ s, l.database.SharesSite station s → l'.content (.rack s) = l.content (.rack s))
include hk ht ht' hs hr

theorem limits_congr (r : Request) :
    l'.limits settings station r = l.limits settings station r := by
  unfold limits
  split
  · cases settings.tiers with
    | none => rfl
    | some tiers =>
      simp only [Option.elim_some, Plant.limits, hs.locationOf?_eq]
      cases hl : l.database.locationOf? station with
      | none => rfl
      | some location =>
        simp only [Option.elim_some, Plant.plan,
          Plant.smartConnectors_site_congr hk ht ht' hs hl hr]
  · rfl

theorem grants_congr (tiers : PowerTiers) :
    Plant.grants tiers l' station = Plant.grants tiers l station := by
  simp only [Plant.grants, hs.locationOf?_eq]
  cases hl : l.database.locationOf? station with
  | none => rfl
  | some location =>
    simp only [Option.elim_some, Plant.smartConnectors_site_congr hk ht ht' hs hl hr]

theorem errands_congr (hknown : l'.registry.knows station = l.registry.knows station)
    (now now' : Timestamp) (r : Request) :
    List.Forall₂ Errand.Same (l.errands settings station now r)
      (l'.errands settings station now' r) := by
  have hgrants : List.Forall₂ Errand.Same
      (settings.tiers.elim [] fun tiers =>
        ((Plant.grants tiers l station).getD []).filterMap (·.errand? now))
      (settings.tiers.elim [] fun tiers =>
        ((Plant.grants tiers l' station).getD []).filterMap (·.errand? now')) := by
    cases settings.tiers with
    | none => exact .nil
    | some tiers =>
      simp only [Option.elim_some, grants_congr hk ht ht' hs hr]
      exact Grant.forall₂_errands ..
  cases r with
  | bootNotification r =>
    simp only [errands, hknown, hs.locationOf?_eq]
    split
    · cases l.database.locationOf? station with
      | none => exact .nil
      | some location =>
        exact .cons ⟨rfl, location.untimed_defaultProfile now now'⟩ .nil
    · exact .nil
  | startTransaction r | stopTransaction r | statusNotification r => exact hgrants
  | _ => exact .nil

end Congr

section Effect

variable {settings : Settings} {l l' : Ledger} (hw : l.storage.broken = []) (hk : l.Keyed)
  (ht : l.registry.Tracks l.database)
include hw hk ht

theorem tracks_outcome (settings : Settings) (now : Timestamp) (station : String) (r : Request) :
    let answered := l.postAll ((l.glance settings station r).outcome settings now station r).2
    answered.Keyed ∧ answered.registry.Tracks answered.database ∧
      l.database.SameSites answered.database := by
  intro answered
  obtain ⟨-, hbooks⟩ : ComesTo l (l.answer settings now station r) _ :=
    answer_eq now station hw hk r
  have hregistry : answered.registry = (l.answer settings now station r).2.registry :=
    (congrArg Ledger.registry hbooks.symm :)
  have hdatabase : answered.database = (l.answer settings now station r).2.database :=
    (congrArg Ledger.database hbooks.symm :)
  have hchanges : Changes settings false _ _ (l.answer settings now station r).2.quiet :=
    changes_answer now station hw hk r
  rw [Keyed, hregistry, hdatabase]
  exact ⟨hchanges.preserve (P := Ledger.Keyed) Change.keyed hk, hchanges.tracks hk ht⟩

theorem effect_congr (hw' : l'.storage.broken = []) (hk' : l'.Keyed)
    (ht' : l'.registry.Tracks l'.database) (hs : l.database.SameSites l'.database)
    {station : String} {r : Request}
    (hg : l'.glance settings station r = l.glance settings station r)
    (hseat : l'.content (.seat station) = l.content (.seat station))
    (hr : ∀ s, l.database.SharesSite station s → l'.content (.rack s) = l.content (.rack s))
    (now now' later later' : Timestamp) :
    (l.effect settings now later station r).Same (l'.effect settings now' later' station r) := by
  obtain ⟨hkm, htm, hsm⟩ := tracks_outcome hw hk ht settings now station r
  obtain ⟨hkm', htm', hsm'⟩ := tracks_outcome hw' hk' ht' settings now' station r
  obtain ⟨hresponse, hentries⟩ := Glance.outcome_congr settings now now' station
    (congrArg Glance.unseen hg.symm) r
  have hview {p : Place} (hp : l'.content p = l.content p) :
      (l'.postAll ((l'.glance settings station r).outcome settings now' station r).2).view p =
        (l.postAll ((l.glance settings station r).outcome settings now station r).2).view p := by
    rw [view_postAll, view_postAll, hentries, view, view, hp]
  have hsites := (hsm.symm.trans hs).trans hsm'
  have hknown : (l'.postAll ((l'.glance settings station r).outcome settings now' station
      r).2).registry.knows station = (l.postAll ((l.glance settings station r).outcome settings now
      station r).2).registry.knows station := by
    have hsome := congrArg Option.isSome (hview hseat)
    rw [knows_eq_isSome, knows_eq_isSome]
    simpa [view, Place.unseen, content] using hsome
  have hracks (s : String) (hshares : Database.SharesSite _ station s) :=
    hview (hr s ((hsm.sharesSite_iff station s).1 hshares))
  refine ⟨hresponse, ?_, errands_congr hkm htm htm' hsites hracks hknown later later' r⟩
  simp only [effect, List.map_append, hentries, limits_congr hkm htm htm' hsites hracks]

end Effect

end Ledger

namespace Database

variable {db : Database} {station other s : String}

/-- A charge point, or one that belongs to the location that its record names. -/
def Near (db : Database) (station s : String) : Prop := s = station ∨ db.SharesSite station s

/-- Two charge points that have nothing in common, where none belongs to two locations. -/
structure Parted (db : Database) (station other : String) : Prop where
  ne : station ≠ other
  apart : ∀ id, db.Belongs station id → ¬ db.Belongs other id
  single : ∀ s id id', db.Belongs s id → db.Belongs s id' → id = id'

theorem Parted.symm (h : db.Parted station other) : db.Parted other station :=
  ⟨h.ne.symm, fun id hb hb' => h.apart id hb' hb, h.single⟩

theorem SharesSite.belongs (hk : db.Keyed) (h : db.SharesSite station s) :
    ∃ id, db.Belongs station id ∧ db.Belongs s id := by
  obtain ⟨location, hl, hbelongs⟩ := h
  obtain ⟨hloc, hnamed⟩ := Ledger.locations_get? (l := Ledger.setDatabase default db) hl hk
  exact ⟨location.id, ⟨location, hloc, .inr hnamed⟩, hbelongs⟩

theorem Parted.not_near (h : db.Parted station other) (hk : db.Keyed) (hs : db.Near station s) :
    ¬ db.Near other s := by
  intro hs'
  rcases hs with rfl | hs
  · rcases hs' with rfl | hs'
    · exact h.ne rfl
    · obtain ⟨id, hother, hstation⟩ := hs'.belongs hk
      exact h.apart id hstation hother
  · obtain ⟨id, hstation, hid⟩ := hs.belongs hk
    rcases hs' with rfl | hs'
    · exact h.apart id hstation hid
    · obtain ⟨id', hother, hid'⟩ := hs'.belongs hk
      obtain rfl := h.single s id id' hid hid'
      exact h.apart id hstation hother

end Database

def Request.starts : Request → Bool
  | .startTransaction _ => true
  | _ => false

/-- The places that a request can change: those of charge points that are near, tags where they are
provided, and what belongs to nobody yet if a transaction is to start. -/
inductive Place.Reached (settings : Settings) (db : Database) (station : String) (r : Request) :
    Place → Prop
  | near {p s} (ho : p.owner? db = some s) (hs : db.Near station s) :
    Reached settings db station r p
  | tag (ha : settings.autoRegisterTags = true) (idTag : String) :
    Reached settings db station r (.tag idTag)
  | fresh {p} (hr : r.starts = true) (ho : p.owner? db = none) (ht : ∀ idTag, p ≠ .tag idTag) :
    Reached settings db station r p

namespace Ledger

/-- A stop is about a transaction on record of the charge point that asks for it. -/
def StopsOwn (l : Ledger) (station : String) (r : Request) : Prop :=
  ∀ q, r = .stopTransaction q → ∃ t, l.database.transactions.get? q.transactionId = some t ∧
    t.chargePoint = station

/-- Two requests that do not meet: their charge points have nothing in common, each stops
transactions of its own at most, and only one of them is to start a transaction. -/
structure Independent (l : Ledger) (station : String) (r : Request) (other : String)
    (r' : Request) : Prop where
  parted : l.database.Parted station other
  stops : l.StopsOwn station r
  stops' : l.StopsOwn other r'
  starts : (r.starts && r'.starts) = false

theorem Independent.symm {l : Ledger} {station other : String} {r r' : Request}
    (h : l.Independent station r other r') : l.Independent other r' station r :=
  ⟨h.parted.symm, h.stops', h.stops, by rw [Bool.and_comm, h.starts]⟩

open Entry

section Reach

variable {settings : Settings} {l : Ledger} (hb : l.registry.Backed l.database)
  {station other : String} {r r' : Request}
include hb

theorem reached_of_mem_entries (hw : l.storage.broken = []) {now later : Timestamp}
    (hown : l.StopsOwn station r)
    (hlt : (l.effect settings now later station r).response.opened = 1 →
      l.database.highestId < 2 ^ 31 - 1) {e : Entry}
    (he : e ∈ (l.effect settings now later station r).entries) {p : Place} (hp : p ∈ e.places) :
    p.Reached settings l.database station r := by
  rcases List.mem_append.1 he with he | he
  · cases Glance.concerns_outcome hb r he with
    | own h => exact .near (h.places p hp) (.inl rfl)
    | tag ha idTag =>
      obtain rfl := List.mem_singleton.1 hp
      exact .tag ha idTag
    | enter hid hs ho =>
      have hnone := hid ▸ hb.get?_nextId (hlt ho)
      simp only [places, List.mem_cons, List.not_mem_nil, or_false] at hp
      refine .fresh rfl ?_ fun idTag => ?_
      · rcases hp with rfl | rfl | rfl <;> simp [Place.owner?, hnone]
      · rcases hp with rfl | rfl | rfl <;> simp
    | stop hr h =>
      obtain ⟨t, ht, rfl⟩ := hown _ rfl
      obtain rfl := Option.some.inj (((record?_of_backed hb _).symm.trans hr).symm.trans ht)
      exact .near (h.places p hp) (.inl rfl)
  · obtain ⟨hk, -, hsites⟩ := tracks_outcome hw (keyed_of_backed hb) hb.chargePoint settings now
      station r
    obtain ⟨location, hl, a, ha, rfl⟩ := mem_limits he
    have hshares := (hsites.sharesSite_iff station a.1.1).1 ⟨location, hl, belongs_of_mem hk hl ha⟩
    refine .near (s := a.1.1) ?_ (.inr hshares)
    simp only [Plant.Assignment.entry, places, List.mem_cons, List.not_mem_nil, or_false] at hp
    rcases hp with rfl | rfl <;> rfl

variable (hi : l.Independent station r other r')
include hi

theorem not_reached_of_near {p : Place} {s : String} (ho : p.owner? l.database = some s)
    (hs : l.database.Near other s) : ¬ p.Reached settings l.database station r := by
  intro h
  cases h with
  | near ho' hs' =>
    obtain rfl := Option.some.inj (ho.symm.trans ho')
    exact hi.parted.not_near hb.keyed hs' hs
  | tag => cases ho
  | fresh _ ho' =>
    rw [ho] at ho'
    cases ho'

theorem eq_tag_of_reached {p : Place} (h : p.Reached settings l.database station r)
    (h' : p.Reached settings l.database other r') : ∃ idTag, p = .tag idTag := by
  cases h' with
  | near ho hs => exact absurd h (not_reached_of_near hb hi ho hs)
  | tag _ idTag => exact ⟨idTag, rfl⟩
  | fresh hr' ho' =>
    cases h with
    | near ho =>
      rw [ho] at ho'
      cases ho'
    | tag _ idTag => exact ⟨idTag, rfl⟩
    | fresh hr => simpa [hr, hr'] using hi.starts

omit hb hi in
theorem tagFor_postAll {es : List Entry}
    (hes : ∀ e ∈ es, ∀ p ∈ e.places, p.Reached settings l.database station r) (idTag : String) :
    (l.postAll es).tagFor settings idTag = l.tagFor settings idTag := by
  unfold tagFor
  split
  · rfl
  · show ((l.postAll es).content (.tag idTag)).or _ = (l.content (.tag idTag)).or _
    rw [content_postAll]
    cases ha : settings.autoRegisterTags with
    | false =>
      rw [changeAll_of_not_mem fun e he hp => ?_]
      cases hes e he _ hp with
      | near ho => cases ho
      | tag hauto =>
        rw [ha] at hauto
        cases hauto
      | fresh _ _ ht => exact ht idTag rfl
    | true =>
      refine changeAll_induction (p := .tag idTag) (P := fun x : Option UserTag =>
        x.or (some (.onFirstUse idTag)) = (l.content (.tag idTag)).or (some (.onFirstUse idTag)))
        (fun e _ x hx => ?_) rfl
      unfold change
      split
      · next hp =>
        rw [eq_tag_of_mem_places hp]
        show (x.or _).or _ = _
        rw [Option.or_assoc, Option.or_self]
        exact hx
      · exact hx

theorem glance_postAll {es : List Entry}
    (hes : ∀ e ∈ es, ∀ p ∈ e.places, p.Reached settings l.database station r) :
    (l.postAll es).glance settings other r' = l.glance settings other r' := by
  have hcontent {p : Place} {s : String} (ho : p.owner? l.database = some s)
      (hs : l.database.Near other s) : (l.postAll es).content p = l.content p :=
    content_postAll_of_not_mem (fun e he hp =>
      not_reached_of_near hb hi ho hs (hes e he p hp)) l
  have hseat : (l.postAll es).registry.chargePoint? other = l.registry.chargePoint? other :=
    hcontent (p := .seat other) rfl (.inl rfl)
  have hrack (i : UInt32) :
      (l.postAll es).registry.connector? other i = l.registry.connector? other i := by
    rw [connector?_eq_rack, connector?_eq_rack]
    exact congrArg (Option.bind · (·.get? i)) (hcontent (p := .rack other) rfl (.inl rfl))
  have htag (idTag : String) := tagFor_postAll hes idTag
  cases r' with
  | authorize q => simp only [glance, hseat, htag]
  | startTransaction q =>
    have hcounter : (l.postAll es).registry.nextId = l.registry.nextId := by
      refine content_postAll_of_not_mem (p := .counter) (fun e he hp => ?_) l
      cases hes e he _ hp with
      | near ho => cases ho
      | fresh hr =>
        have hstarts := hi.starts
        rw [hr] at hstarts
        cases hstarts
    simp only [glance, hseat, hrack, htag, hcounter]
  | stopTransaction q =>
    obtain ⟨t, ht, rfl⟩ := hi.stops' q rfl
    have howner : (l.database.transactions.get? q.transactionId).map (·.chargePoint) =
        some t.chargePoint := by rw [ht]; rfl
    have hrunning := hcontent (p := .running q.transactionId) howner (.inl rfl)
    have hfiled := hcontent (p := .filed q.transactionId) howner (.inl rfl)
    have hrecord : (l.postAll es).record? q.transactionId = l.record? q.transactionId :=
      congrArg₂ Option.or hrunning hfiled
    have hsome : l.record? q.transactionId = some t := (record?_of_backed hb _).trans ht
    simp only [glance, hrecord, hsome, Option.bind_some, hrack]
  | statusNotification q => simp only [glance, hseat, hrack]
  | _ => simp only [glance, hseat]

/-- Books that differ in the entries of somebody else let a request come to the same. -/
theorem effect_after (hw : l.storage.broken = []) {es : List Entry}
    (hes : ∀ e ∈ es, ∀ p ∈ e.places, p.Reached settings l.database station r) {l' : Ledger}
    (hafter : l'.books = (l.postAll es).books) (hb' : l'.registry.Backed l'.database)
    (hs : l.database.SameSites l'.database) (now now' later later' : Timestamp) :
    (l.effect settings now later other r').Same (l'.effect settings now' later' other r') := by
  have hcontent {p : Place} {s : String} (ho : p.owner? l.database = some s)
      (hs : l.database.Near other s) : l'.content p = l.content p := by
    rw [← content_books, hafter, content_books]
    exact content_postAll_of_not_mem (fun e he hp =>
      not_reached_of_near hb hi ho hs (hes e he p hp)) l
  have hglance : l'.glance settings other r' = l.glance settings other r' := by
    rw [← glance_books, hafter, glance_books]
    exact glance_postAll hb hi hes
  exact effect_congr hw (keyed_of_backed hb) hb.chargePoint ((broken_of_books hafter).trans hw)
    (keyed_of_backed hb') hb'.chargePoint hs hglance (hcontent rfl (.inl rfl))
    (fun s hshares => hcontent rfl (.inr hshares)) now now' later later'

theorem view_postAll_comm {es₁ es₁' es₂ es₂' : List Entry}
    (h₁ : ∀ e ∈ es₁, ∀ p ∈ e.places, p.Reached settings l.database station r)
    (h₂ : ∀ e ∈ es₂, ∀ p ∈ e.places, p.Reached settings l.database other r')
    (hsame₁ : es₁.map unseen = es₁'.map unseen) (hsame₂ : es₂.map unseen = es₂'.map unseen)
    (p : Place) :
    (l.postAll (es₁ ++ es₂')).view p = (l.postAll (es₂ ++ es₁')).view p := by
  have hapart : ∀ e ∈ es₁.map unseen, ∀ e' ∈ es₂.map unseen, Apart e e' := by
    intro e he e' he' q hq hq'
    obtain ⟨d, hd, rfl⟩ := List.mem_map.1 he
    obtain ⟨d', hd', rfl⟩ := List.mem_map.1 he'
    rw [places_unseen] at hq hq'
    exact eq_tag_of_reached hb hi (h₁ d hd q hq) (h₂ d' hd' q hq')
  rw [postAll_append, postAll_append, view_postAll, view_postAll, view_postAll, view_postAll,
    ← hsame₁, ← hsame₂]
  exact changeAll_comm hapart p _

end Reach

end Ledger

end CentralSystem
