import CentralSystem.Proofs.Ledger.Backed
import CentralSystem.Proofs.Ledger.Outcome

namespace CentralSystem

/-- The charge point that a place belongs to, as it is on record. -/
def Place.owner? (db : Database) : Place → Option String
  | seat s | rack s | record s | shelf s | samples s => some s
  | running id | filed id => (db.transactions.get? id).map (·.chargePoint)
  | tag _ | counter => none

namespace Place

def holdsConnectors : Place → Bool
  | rack _ | shelf _ => true
  | _ => false

def holdsTransaction : Place → Bool
  | running _ | filed _ => true
  | _ => false

def transaction? : (p : Place) → p.Content → Option Transaction
  | running _, x | filed _, x => x
  | _, _ => none

end Place

namespace Entry

def transaction? : Entry → Option Transaction
  | enter t | settle t => some t
  | _ => none

/-- All that an entry is about belongs to one charge point. -/
structure BelongsTo (db : Database) (station : String) (e : Entry) : Prop where
  places : ∀ p ∈ e.places, p.owner? db = some station
  transaction : ∀ t ∈ e.transaction?, t.chargePoint = station

theorem BelongsTo.of_places {db : Database} {station : String} {e : Entry}
    (ht : e.transaction? = none) (h : ∀ p ∈ e.places, p.owner? db = some station) :
    e.BelongsTo db station :=
  ⟨h, fun _ hmem => by simp [ht] at hmem⟩

/-- What an entry that a request makes can be about. -/
inductive Concerns (settings : Settings) (l : Ledger) (station : String) (response : Response) :
    Request → Entry → Prop
  | own {r e} (h : e.BelongsTo l.database station) : Concerns settings l station response r e
  | tag {r} (ha : settings.autoRegisterTags = true) (idTag : String) :
      Concerns settings l station response r (.tag idTag)
  | enter {r t} (hid : t.id = l.registry.nextId) (hs : t.chargePoint = station)
      (ho : response.opened = 1) :
      Concerns settings l station response (.startTransaction r) (.enter t)
  | stop {q t e} (hr : l.record? q.transactionId = some t)
      (h : e.BelongsTo l.database t.chargePoint) :
      Concerns settings l station response (.stopTransaction q) e

end Entry

namespace Entry

theorem change_transaction {P : Transaction → Prop} {e : Entry} (he : ∀ t ∈ e.transaction?, P t)
    {p : Place} {x : p.Content} (hx : ∀ t ∈ p.transaction? x, P t) :
    ∀ t ∈ p.transaction? (e.change p x), P t := by
  unfold change
  split
  · cases p with
    | running id =>
      cases e with
      | enter t => simpa [write, transaction?, Place.transaction?] using he
      | forget | settle => simp [write, Place.transaction?]
      | _ => exact hx
    | filed id =>
      cases e with
      | enter t | settle t => cases x <;> simp_all [write, transaction?, Place.transaction?]
      | _ => exact hx
    | _ => simp [Place.transaction?]
  · exact hx

theorem change_tag_of_some (e : Entry) {idTag : String} {x : Option UserTag} {tag : UserTag}
    (h : x = some tag) : e.change (.tag idTag) x = some tag := by
  subst h
  unfold change
  split
  · cases e <;> rfl
  · rfl

section Concerns

variable {settings : Settings} {l : Ledger} {station other : String} {response : Response}
  {r : Request} {e : Entry} (h : e.Concerns settings l station response r) (hne : other ≠ station)
  (hstop : ∀ q t, r = .stopTransaction q → l.record? q.transactionId = some t →
    t.chargePoint ≠ other)
include h hne hstop

/-- What belongs to another charge point is left alone, if no transaction of it is stopped. -/
theorem Concerns.not_mem_places (hb : l.registry.Backed l.database)
    (hlt : response.opened = 1 → l.database.highestId < 2 ^ 31 - 1) {p : Place}
    (hp : p.owner? l.database = some other) : p ∉ e.places := by
  intro hmem
  cases h with
  | own h => exact hne (Option.some.inj (hp.symm.trans (h.places p hmem)))
  | tag _ idTag =>
    obtain rfl := List.mem_singleton.1 hmem
    cases hp
  | enter hid hs ho =>
    have hnone := hid ▸ hb.get?_nextId (hlt ho)
    simp only [places, List.mem_cons, List.not_mem_nil, or_false] at hmem
    rcases hmem with rfl | rfl | rfl <;> simp [Place.owner?, hnone] at hp
  | stop hr h => exact hstop _ _ rfl hr (Option.some.inj ((h.places p hmem).symm.trans hp))

theorem Concerns.chargePoint_ne : ∀ t ∈ e.transaction?, t.chargePoint ≠ other := by
  intro t ht
  cases h with
  | own h => exact fun he => hne (he.symm.trans (h.transaction t ht))
  | tag => cases ht
  | enter hid hs ho =>
    obtain rfl := Option.some.inj ht
    exact fun he => hne (he.symm.trans hs)
  | stop hr h => exact fun he => hstop _ _ rfl hr ((h.transaction t ht).symm.trans he)

end Concerns

end Entry

namespace Glance

open Entry

variable {settings : Settings} {now : Timestamp} {station : String} {l : Ledger}
  (hb : l.registry.Backed l.database)

theorem start_cases (settings : Settings) (station : String) (g : Glance)
    (q : Request.StartTransaction) :
    let c := g.connector.getD { id := q.connectorId }
    let t := Ledger.newTransaction station g.nextId q g.tag
    let tags := provision settings q.idTag
    let first := if g.connector.isSome then [] else [Entry.put station { id := q.connectorId }]
    g.start settings station q = (.startTransaction (.ofStatus .concurrentTx) 0, tags ++ first) ∨
      g.start settings station q =
        (Ledger.startAccepted t, tags ++ (first ++ occupation station c t)) ∨
      g.start settings station q = (Ledger.startAccepted t, tags ++ [.enter t]) := by
  intro c t tags first
  unfold start
  dsimp only
  split
  · split
    · exact .inl rfl
    · exact .inr (.inl rfl)
  · exact .inr (.inr rfl)

theorem belongsTo_put (db : Database) (station : String) (c : Connector) :
    (Entry.put station c).BelongsTo db station :=
  .of_places rfl (by simp [places, Place.owner?])

theorem belongsTo_forget {db : Database} {id : Int32} {t : Transaction}
    (h : db.transactions.get? id = some t) : (Entry.forget id).BelongsTo db t.chargePoint :=
  .of_places rfl (by simp [places, Place.owner?, h])

include hb

theorem belongsTo_amend {cp cp' : ChargePoint} (hcp : l.registry.chargePoint? station = some cp)
    (hid : cp'.id = cp.id) : (Entry.amend cp').BelongsTo l.database station :=
  .of_places rfl (by simp [places, Place.owner?, hid, hb.id_of_chargePoint hcp])

theorem belongsTo_see {cp cp' : ChargePoint} (hcp : l.registry.chargePoint? station = some cp)
    (hid : cp'.id = cp.id) : (Entry.see cp').BelongsTo l.database station :=
  .of_places rfl (by simp [places, Place.owner?, hid, hb.id_of_chargePoint hcp])

theorem belongsTo_forget_of_isActive {i : UInt32} {c : Connector}
    (hc : (l.registry.connector? station i).getD { id := i } = c) (ha : c.isActive = true) :
    (Entry.forget c.transaction).BelongsTo l.database station := by
  cases hcon : l.registry.connector? station i with
  | none =>
    rw [hcon] at hc
    subst hc
    cases ha
  | some c' =>
    rw [hcon] at hc
    obtain rfl : c' = c := hc
    obtain ⟨t, ht, -, rfl, -⟩ := hb.record_of_isActive hcon ha
    exact belongsTo_forget ht

omit hb in
theorem belongsTo_identification {db : Database} {cp : ChargePoint} (hid : cp.id = station)
    (r : Request.BootNotification) : (identification now cp r).BelongsTo db station := by
  unfold identification
  dsimp only
  split <;>
    exact .of_places rfl
      (by simp [places, Place.owner?, ChargePoint.touch, ChargePoint.identify, hid])

section Requests

variable {e : Entry}

omit hb in
theorem concerns_provision {response : Response} {r : Request} {idTag : String}
    (he : e ∈ provision settings idTag) : e.Concerns settings l station response r := by
  unfold provision at he
  split at he
  · next ha => exact List.mem_singleton.1 he ▸ .tag (Bool.and_eq_true_iff.1 ha).1 idTag
  · cases he

theorem concerns_amend {response : Response} {r : Request} {change : ChargePoint → ChargePoint}
    (he : e ∈ (l.registry.chargePoint? station).toList.map fun cp => .amend (change cp))
    (hc : ∀ cp, (change cp).id = cp.id) : e.Concerns settings l station response r := by
  obtain ⟨cp, hcp, rfl⟩ := List.mem_map.1 he
  exact .own (belongsTo_amend hb (Option.mem_toList.1 hcp) (hc cp))

theorem concerns_boot {response : Response} (r : Request.BootNotification)
    (he : e ∈ ((l.glance settings station (.bootNotification r)).boot settings now station r).2) :
    e.Concerns settings l station response (.bootNotification r) := by
  simp only [boot, Ledger.glance] at he
  split at he
  · next cp hcp =>
    exact List.mem_singleton.1 he ▸ .own (belongsTo_identification (hb.id_of_chargePoint hcp) r)
  · split at he
    · rcases List.mem_cons.1 he with rfl | he
      · exact .own (.of_places rfl (by simp [places, Place.owner?]))
      · exact List.mem_singleton.1 he ▸ .own (belongsTo_identification (by rfl) r)
    · cases he

theorem concerns_occupation {q : Request.StartTransaction} {t : Transaction}
    (hid : t.id = l.registry.nextId) (hs : t.chargePoint = station)
    (he : e ∈ occupation station
      ((l.registry.connector? station q.connectorId).getD { id := q.connectorId }) t) :
    e.Concerns settings l station (Ledger.startAccepted t) (.startTransaction q) := by
  rcases List.mem_append.1 he with he | he
  · rcases List.mem_cons.1 he with rfl | he
    · exact .enter hid hs rfl
    · exact List.mem_singleton.1 he ▸ .own (belongsTo_put l.database station _)
  · split at he
    · next ha => exact List.mem_singleton.1 he ▸ .own (belongsTo_forget_of_isActive hb rfl ha)
    · cases he

theorem concerns_start (q : Request.StartTransaction)
    (he : e ∈ ((l.glance settings station (.startTransaction q)).start settings station q).2) :
    e.Concerns settings l station
      ((l.glance settings station (.startTransaction q)).start settings station q).1
      (.startTransaction q) := by
  have hfirst {response : Response}
      (he : e ∈ if (l.registry.connector? station q.connectorId).isSome then []
        else [Entry.put station { id := q.connectorId }]) :
      e.Concerns settings l station response (.startTransaction q) := by
    split at he
    · cases he
    · exact List.mem_singleton.1 he ▸ .own (belongsTo_put l.database station _)
  rcases start_cases settings station (l.glance settings station (.startTransaction q)) q with
    h | h | h
  · rw [h] at he ⊢
    exact (List.mem_append.1 he).elim concerns_provision hfirst
  · rw [h] at he ⊢
    exact (List.mem_append.1 he).elim concerns_provision fun he =>
      (List.mem_append.1 he).elim hfirst (concerns_occupation hb rfl rfl)
  · rw [h] at he ⊢
    rcases List.mem_append.1 he with he | he
    · exact concerns_provision he
    · obtain rfl := List.mem_singleton.1 he
      exact .enter rfl rfl rfl

theorem concerns_stop {response : Response} (q : Request.StopTransaction)
    (he : e ∈ (l.glance settings station (.stopTransaction q)).stop q) :
    e.Concerns settings l station response (.stopTransaction q) := by
  simp only [stop, Ledger.glance] at he
  split at he
  · cases he
  · next t hr =>
    have hdb := hr
    rw [Ledger.record?_of_backed hb] at hdb
    have hid : t.id = q.transactionId := hb.keyed.transaction _ _ hdb
    rw [← hid] at hdb
    refine .stop hr ?_
    split at he
    · exact List.mem_singleton.1 he ▸ belongsTo_forget hdb
    · next ho =>
      rcases List.mem_append.1 he with he | he
      · obtain ⟨c, -, rfl⟩ := List.mem_map.1 he
        exact belongsTo_put _ _ _
      · obtain rfl := List.mem_singleton.1 he
        obtain ⟨hclosed, hs, -⟩ := Ledger.closed_eq (by simpa using ho) q
        exact ⟨by simp [places, Place.owner?, hclosed, hdb], by simp [transaction?, hs]⟩

theorem concerns_reportStatus {response : Response} (r : Request.StatusNotification)
    (he : e ∈ (l.glance settings station (.statusNotification r)).reportStatus now station r) :
    e.Concerns settings l station response (.statusNotification r) := by
  rw [reportStatus] at he
  split at he
  · exact concerns_amend hb he fun _ => rfl
  · rcases List.mem_cons.1 he with rfl | he
    · exact .own (belongsTo_put _ _ _)
    · obtain ⟨id, hid, rfl⟩ := List.mem_map.1 he
      rw [Option.mem_toList, Connector.report] at hid
      split at hid
      · next ha =>
        obtain rfl := Option.some.inj hid
        exact .own (belongsTo_forget_of_isActive hb rfl ha.2)
      · cases hid

end Requests

theorem concerns_outcome (r : Request) {e : Entry}
    (he : e ∈ ((l.glance settings station r).outcome settings now station r).2) :
    e.Concerns settings l station
      ((l.glance settings station r).outcome settings now station r).1 r := by
  cases r with
  | bootNotification r => exact concerns_boot hb r he
  | authorize r =>
    simp only [outcome, authorize] at he
    split at he
    · cases he
    · exact concerns_provision he
  | heartbeat _ =>
    obtain ⟨cp, hcp, rfl⟩ := List.mem_map.1 he
    exact .own (belongsTo_see hb (Option.mem_toList.1 hcp) rfl)
  | startTransaction r => exact concerns_start hb r he
  | stopTransaction q => exact concerns_stop hb q he
  | meterValues r =>
    obtain ⟨s, hs, rfl⟩ := List.mem_map.1 he
    simp only [Ledger.samples, List.mem_flatMap, List.mem_map] at hs
    obtain ⟨m, -, v, -, rfl⟩ := hs
    exact .own (.of_places rfl (by simp [places, Place.owner?]))
  | statusNotification r => exact concerns_reportStatus hb r he
  | dataTransfer _ => cases he
  | diagnosticsStatusNotification r => exact concerns_amend hb he fun _ => rfl
  | firmwareStatusNotification r => exact concerns_amend hb he fun _ => rfl

end Glance

end CentralSystem
