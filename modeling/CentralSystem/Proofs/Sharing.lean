import CentralSystem.Proofs.Site

namespace CentralSystem

namespace PowerTiers

variable {tiers : PowerTiers} {held : List Int32}

/-- A current is the highest of the upper tiers that is not taken, or else the floor. -/
inductive Highest (tiers : PowerTiers) (taken : Int32 → Prop) : Int32 → Prop
  | high (h : ¬taken tiers.high) : Highest tiers taken tiers.high
  | middle (hh : taken tiers.high) (h : ¬taken tiers.middle) : Highest tiers taken tiers.middle
  | floor (hh : taken tiers.high) (hm : taken tiers.middle) : Highest tiers taken tiers.floor

theorem Highest.congr {taken taken' : Int32 → Prop} {x : Int32} (h : tiers.Highest taken x)
    (hh : taken tiers.high ↔ taken' tiers.high) (hm : taken tiers.middle ↔ taken' tiers.middle) :
    tiers.Highest taken' x := by
  cases h with
  | high h => exact .high fun h' => h (hh.2 h')
  | middle h h' => exact .middle (hh.1 h) fun hm' => h' (hm.2 hm')
  | floor h h' => exact .floor (hh.1 h) (hm.1 h')

theorem highest_pick : tiers.Highest (· ∈ held) (tiers.pick held) := by
  by_cases hh : tiers.high ∈ held
  · by_cases hm : tiers.middle ∈ held
    · have hp : tiers.pick held = tiers.floor := by simp [pick, hh, hm]
      exact hp ▸ .floor hh hm
    · have hp : tiers.pick held = tiers.middle := by simp [pick, hh, hm]
      exact hp ▸ .middle hh hm
  · have hp : tiers.pick held = tiers.high := by simp [pick, hh]
    exact hp ▸ .high hh

theorem pick_of_picks_eq {before later : List Int32} {x : Int32} {n : Nat}
    (h : tiers.picks held n = before ++ x :: later) : x = tiers.pick (held ++ before) := by
  induction before generalizing held n with
  | nil =>
    cases n with
    | zero => cases h
    | succ n => rw [List.append_nil, (List.cons.inj h).1]
  | cons y rest ih =>
    cases n with
    | zero => cases h
    | succ n =>
      obtain ⟨hy, hrest⟩ := List.cons.inj h
      rw [ih hrest, hy, List.append_assoc, List.singleton_append]

end PowerTiers

namespace Ledger

/-- Two ledgers are the same but for the limits of connectors, and but for notices. -/
structure LimitsOnly (l l' : Ledger) : Prop where
  chargePoint : ∀ s, l'.registry.chargePoint? s = l.registry.chargePoint? s
  transactions : l'.registry.transactions = l.registry.transactions
  nextId : l'.registry.nextId = l.registry.nextId
  database : l'.database = { l.database with connectors := l'.database.connectors }
  broken : l'.storage.broken = l.storage.broken
  queue : l'.queue = l.queue
  events : l'.events = l.events

namespace LimitsOnly

variable {l l' l'' : Ledger}

theorem of_quiet (h : l'.quiet = l.quiet) : l.LimitsOnly l' := by
  have hr : l'.registry = l.registry := registry_of_quiet (l := l.quiet) h
  have hs : l'.storage = l.storage := storage_of_quiet (l := l.quiet) h
  have hq : l'.quiet.queue = l.quiet.queue ∧ l'.quiet.events = l.quiet.events := by
    rw [h]
    exact ⟨rfl, rfl⟩
  exact
    { chargePoint := fun s => by rw [hr]
      transactions := by rw [hr]
      nextId := by rw [hr]
      database := by rw [Ledger.database, hs]
      broken := by rw [hs]
      queue := hq.1
      events := hq.2 }

theorem trans (h : l.LimitsOnly l') (h' : l'.LimitsOnly l'') : l.LimitsOnly l'' where
  chargePoint s := (h'.chargePoint s).trans (h.chargePoint s)
  transactions := h'.transactions.trans h.transactions
  nextId := h'.nextId.trans h.nextId
  database := by
    rw [h'.database, h.database]
  broken := h'.broken.trans h.broken
  queue := h'.queue.trans h.queue
  events := h'.events.trans h.events

theorem knows (h : l.LimitsOnly l') (s : String) : l'.registry.knows s = l.registry.knows s := by
  rw [Bool.eq_iff_iff, Registry.knows_iff, Registry.knows_iff, h.chargePoint]

theorem chargePoints (h : l.LimitsOnly l') :
    l'.database.chargePoints = l.database.chargePoints := by
  rw [h.database]

theorem isSmart (h : l.LimitsOnly l') (s : String) :
    l'.database.isSmart s = l.database.isSmart s := by
  rw [Database.isSmart, h.chargePoints]
  rfl

theorem named? (h : l.LimitsOnly l') (s : String) : l'.database.named? s = l.database.named? s := by
  rw [Database.named?, h.chargePoints]
  rfl

theorem locationOf? (h : l.LimitsOnly l') (s : String) :
    l'.database.locationOf? s = l.database.locationOf? s := by
  rw [Database.locationOf?, h.named?, h.database]
  rfl

theorem takesPart_iff (h : l.LimitsOnly l') {location : Location} {station s : String} :
    l'.TakesPart location station s ↔ l.TakesPart location station s := by
  constructor
  · rintro ⟨hk, hs, hp⟩
    exact ⟨h.knows s ▸ hk, h.isSmart s ▸ hs, h.named? s ▸ hp⟩
  · rintro ⟨hk, hs, hp⟩
    exact ⟨(h.knows s).symm ▸ hk, (h.isSmart s).symm ▸ hs, (h.named? s).symm ▸ hp⟩

end LimitsOnly

end Ledger

namespace Plant

open Ledger

section Assign

variable {l : Ledger} (station : String) (c : Connector) (limit : Int32)

theorem registry_setLimit : (setLimit l station c limit).registry =
    l.registry.setConnector station { c with limit := limit } :=
  registry_write ..

theorem storage_setLimit_of_works (h : l.storage.Works .updateConnectorLimit) :
    (setLimit l station c limit).storage =
      { l.storage with database := l.database.limitConnector station c.id limit } := by
  simp only [setLimit, Storage.updateConnectorLimit, Storage.write, Storage.attempt_of_works h]
  rfl

theorem storage_setLimit_of_not_works (h : ¬l.storage.Works .updateConnectorLimit) :
    (setLimit l station c limit).storage = l.storage := by
  simp only [setLimit, Storage.updateConnectorLimit, Storage.write, Storage.attempt_of_not_works h]
  rfl

theorem limitsOnly_setLimit : l.LimitsOnly (setLimit l station c limit) := by
  have hqueue (result : Except Error Storage) (failed : Error → Notice) (l : Ledger) :
      (l.write result failed).queue = l.queue ∧ (l.write result failed).events = l.events := by
    unfold write
    split <;> exact ⟨rfl, rfl⟩
  obtain ⟨hq, he⟩ := hqueue (l.storage.updateConnectorLimit station c.id limit)
    (.limitNotPersisted station c.id)
    { l with registry := l.registry.setConnector station { c with limit } }
  refine
    { chargePoint := fun s => by rw [registry_setLimit, Registry.chargePoint?_setConnector]
      transactions := by rw [registry_setLimit]; rfl
      nextId := by rw [registry_setLimit]; rfl
      database := ?_
      broken := ?_
      queue := hq
      events := he }
  · by_cases hw : l.storage.Works .updateConnectorLimit
    · rw [Ledger.database, storage_setLimit_of_works _ _ _ hw]
      rfl
    · rw [Ledger.database, storage_setLimit_of_not_works _ _ _ hw]
  · by_cases hw : l.storage.Works .updateConnectorLimit
    · rw [storage_setLimit_of_works _ _ _ hw]
    · rw [storage_setLimit_of_not_works _ _ _ hw]

variable (as : List Assignment)

theorem limitsOnly_assign : l.LimitsOnly (assign l as) := by
  induction as generalizing l with
  | nil => exact .of_quiet rfl
  | cons a rest ih => exact (limitsOnly_setLimit ..).trans ih

theorem registry_assign : (assign l as).registry =
    as.foldl (fun r a => r.setConnector a.1.1 a.connector) l.registry := by
  induction as generalizing l with
  | nil => rfl
  | cons a rest ih =>
    have hrest := ih (l := setLimit l a.1.1 a.1.2 a.2)
    rw [registry_setLimit] at hrest
    exact hrest

theorem database_assign_of_works (h : l.storage.Works .updateConnectorLimit) :
    (assign l as).database =
      as.foldl (fun db a => db.limitConnector a.1.1 a.1.2.id a.2) l.database := by
  induction as generalizing l with
  | nil => rfl
  | cons a rest ih =>
    have hfirst := storage_setLimit_of_works a.1.1 a.1.2 a.2 h
    have hdb : (setLimit l a.1.1 a.1.2 a.2).database =
        l.database.limitConnector a.1.1 a.1.2.id a.2 := congrArg Storage.database hfirst
    have hrest := ih (l := setLimit l a.1.1 a.1.2 a.2) (by rw [hfirst]; exact h)
    rw [hdb] at hrest
    exact hrest

theorem database_assign_of_not_works (h : ¬l.storage.Works .updateConnectorLimit) :
    (assign l as).database = l.database := by
  induction as generalizing l with
  | nil => rfl
  | cons a rest ih =>
    have hfirst := storage_setLimit_of_not_works a.1.1 a.1.2 a.2 h
    have hrest := ih (l := setLimit l a.1.1 a.1.2 a.2) (by rw [hfirst]; exact h)
    exact hrest.trans (congrArg Storage.database hfirst)

theorem connector?_foldl_limitConnector {as : List Assignment} {db : Database} (hk : db.Keyed)
    (hn : (as.map Assignment.key).Nodup) (s : String) (i : UInt32) :
    (as.foldl (fun db a => db.limitConnector a.1.1 a.1.2.id a.2) db).connector? s i =
      ((as.find? (·.key = (s, i))).map fun a =>
        { (db.connector? s i).getD { id := i } with limit := a.2 }).or (db.connector? s i) := by
  induction as generalizing db with
  | nil => rfl
  | cons a rest ih =>
    obtain ⟨ha, hr⟩ := List.nodup_cons.1 hn
    have hset (s : String) (i : UInt32) :
        (db.limitConnector a.1.1 a.1.2.id a.2).connector? s i =
          if s = a.1.1 ∧ i = a.1.2.id then
            some { (db.connector? a.1.1 a.1.2.id).getD { id := a.1.2.id } with limit := a.2 }
          else db.connector? s i := by
      have hid : ((db.connector? a.1.1 a.1.2.id).getD { id := a.1.2.id }).id = a.1.2.id := by
        cases hc : db.connector? a.1.1 a.1.2.id with
        | none => rfl
        | some c => exact hk.connector _ _ _ hc
      rw [Database.limitConnector, Database.connector?_putConnector]
      simp only [hid]
    have hk' : (db.limitConnector a.1.1 a.1.2.id a.2).Keyed := hk.putConnector _ _
    rw [List.foldl_cons, ih hk' hr, hset]
    by_cases hkey : a.key = (s, i)
    · obtain ⟨rfl, rfl⟩ := Prod.mk.inj hkey
      have hnone : rest.find? (·.key = (a.1.1, a.1.2.id)) = none := by
        simp only [List.find?_eq_none, decide_eq_true_eq]
        exact fun b hb he => ha (List.mem_map.2 ⟨b, hb, he⟩)
      rw [hnone, List.find?_cons_of_pos (by simp [hkey]), if_pos ⟨rfl, rfl⟩]
      rfl
    · have hne : ¬(s = a.1.1 ∧ i = a.1.2.id) := by
        rintro ⟨rfl, rfl⟩
        exact hkey rfl
      rw [List.find?_cons_of_neg (by simp [hkey]), if_neg hne]

end Assign

section Plan

variable {tiers : PowerTiers} {l : Ledger} {location : Location} {station : String} (hk : l.Keyed)
include hk

/-- What the registry has after an assignment does not depend on which operations are broken. -/
theorem connector?_assign (s : String) (i : UInt32) :
    (assign l (plan tiers l location station)).registry.connector? s i =
      (l.registry.connector? s i).map fun c =>
        { c with limit := limitAfter tiers l location station s i } := by
  have hmended := connector?_assign_plan (l := { l with storage := { database := l.database } })
    rfl hk tiers location station s i
  rw [registry_assign] at hmended ⊢
  exact hmended

theorem limitAt_assign (s : String) (i : UInt32) :
    (assign l (plan tiers l location station)).registry.limitAt s i =
      limitAfter tiers l location station s i := by
  have hmended := limitAt_assign_plan (l := { l with storage := { database := l.database } })
    rfl hk tiers location station s i
  rw [registry_assign] at hmended ⊢
  exact hmended

theorem nodup_plan : ((plan tiers l location station).map Assignment.key).Nodup :=
  nodup_assignments (nodup_smartConnectors hk.1.connector (Table.keys_nodup _))

theorem limitAfter_of_mem {a : Assignment} (ha : a ∈ plan tiers l location station) :
    limitAfter tiers l location station a.1.1 a.1.2.id = a.2 := by
  rcases limitAfter_cases tiers l location station a.1.1 a.1.2.id with ⟨b, hb, hkey, he⟩ | ⟨hno, -⟩
  · obtain rfl := List.inj_on_of_nodup_map (nodup_plan hk) hb ha hkey
    exact he
  · exact absurd rfl (hno a ha)

theorem limitAfter_of_not_takesPart {s : String} (hs : ¬l.TakesPart location station s)
    (i : UInt32) : limitAfter tiers l location station s i = l.registry.limitAt s i := by
  rcases limitAfter_cases tiers l location station s i with ⟨a, ha, hkey, -⟩ | ⟨-, he⟩
  · have hpart := ((mem_smartConnectors_site hk.1.connector).1 (mem_of_mem_assignments ha).1).1
    rw [show a.1.1 = s from congrArg Prod.fst hkey] at hpart
    exact absurd hpart hs
  · exact he

theorem limitAt_ne_of_mem_plan (hd : tiers.isDescending = true) {a : Assignment}
    (ha : a ∈ plan tiers l location station) : l.registry.limitAt a.1.1 a.1.2.id ≠ a.2 := by
  obtain ⟨hf, hm, hh, -⟩ := PowerTiers.ne_of_isDescending hd
  have hc := ((mem_smartConnectors_site hk.1.connector).1 (mem_of_mem_assignments ha).1).2
  rw [Registry.limitAt_of_connector? hc]
  rcases assignments_cases ha with ⟨hidle, h0⟩ | ⟨hwaits, hg⟩
  · have hlim : a.1.2.limit ≠ 0 := by
      have hp := (List.mem_filter.1 hidle).2
      simp only [Bool.and_eq_true, bne_iff_ne] at hp
      exact hp.2
    rw [h0]
    exact hlim
  · have hlim : a.1.2.limit = 0 := by simpa using (List.mem_filter.1 hwaits).2
    rw [hlim]
    rcases mem_picks_of_granted hg with h | ⟨h | h, -⟩ <;> rw [h] <;> exact Ne.symm ‹_›

end Plan

theorem ascending_smartConnectors {l : Ledger}
    (hkey : ∀ s i c, l.registry.connector? s i = some c → c.id = i) {ms : List String}
    (hms : ms.Pairwise (compare · · = .lt)) : (smartConnectors l ms).Pairwise fun e e' =>
      e.1 < e'.1 ∨ e.1 = e'.1 ∧ e.2.id < e'.2.id := by
  refine List.pairwise_flatMap.2 ⟨fun s _ => ?_,
    (hms.filter _).imp fun {s s'} hlt e he e' he' => ?_⟩
  · refine List.pairwise_map.2 ?_
    cases hs : l.registry.stations.get? s with
    | none => exact .nil
    | some x =>
      have hids : x.connectors.values.map (·.id) = x.connectors.keys :=
        Table.map_values fun i c hc => hkey s i c (by simp [Registry.connector?, hs, hc])
      have hsorted := x.connectors.sorted_keys
      rw [← hids] at hsorted
      exact (List.pairwise_map.1 hsorted).imp fun h => .inr ⟨rfl, Std.compare_eq_lt.1 h⟩
  · obtain ⟨_, -, rfl⟩ := List.mem_map.1 he
    obtain ⟨_, -, rfl⟩ := List.mem_map.1 he'
    exact .inl (compareOfLessAndEq_eq_lt.1 hlt)

section Grants

variable {tiers : PowerTiers} {cs : List (String × Connector)}

theorem ascending_grants
    (h : cs.Pairwise fun e e' => e.1 < e'.1 ∨ e.1 = e'.1 ∧ e.2.id < e'.2.id) :
    ((granted tiers cs).map Assignment.grant).Pairwise fun g g' =>
      g.chargePoint < g'.chargePoint ∨
        g.chargePoint = g'.chargePoint ∧ g.connector < g'.connector := by
  have hwaiting := (h.filter (·.2.isActive)).filter (·.2.limit == 0)
  rw [← waiting, ← map_fst_granted tiers] at hwaiting
  exact List.pairwise_map.2 (List.pairwise_map.1 hwaiting)

theorem mem_held {x : Int32} (hx : x ≠ 0) :
    x ∈ held cs ↔ ∃ e ∈ cs, e.2.isActive = true ∧ e.2.limit = x := by
  simp only [held, List.mem_filter, List.mem_map, bne_iff_ne]
  constructor
  · rintro ⟨⟨e, ⟨he, ha⟩, rfl⟩, -⟩
    exact ⟨e, he, ha, rfl⟩
  · rintro ⟨e, he, ha, rfl⟩
    exact ⟨⟨e, ⟨he, ha⟩, rfl⟩, hx⟩

theorem highest_of_grants_eq (hd : tiers.isDescending = true) {before later : List Grant}
    {g : Grant} (h : (granted tiers cs).map Assignment.grant = before ++ g :: later) :
    tiers.Highest (fun x => (∃ e ∈ cs, e.2.isActive = true ∧ e.2.limit = x) ∨
      ∃ g' ∈ before, g'.amps = x) g.amps := by
  obtain ⟨-, hm, hh, -⟩ := PowerTiers.ne_of_isDescending hd
  have hamps := congrArg (List.map Grant.amps) h
  rw [List.map_map, List.map_append, List.map_cons] at hamps
  have hpicks := PowerTiers.pick_of_picks_eq ((map_snd_granted tiers cs).symm.trans hamps)
  have htaken {x : Int32} (hx : x ≠ 0) : x ∈ held cs ++ before.map Grant.amps ↔
      (∃ e ∈ cs, e.2.isActive = true ∧ e.2.limit = x) ∨ ∃ g' ∈ before, g'.amps = x := by
    rw [List.mem_append, mem_held hx, List.mem_map]
  have hg : g.amps = tiers.pick (held cs ++ before.map Grant.amps) := hpicks
  exact hg ▸ PowerTiers.highest_pick.congr (htaken hh) (htaken hm)

end Grants

/-- The profiles for these grants are tried one after the other, with what is noted of it. One that
cannot be built or sent is given up, and the next one is tried. -/
inductive Tries (now : Timestamp) :
    List Grant → Switchboard → Switchboard → List Notice → Prop
  | done (b : Switchboard) : Tries now [] b b []
  | sent {g gs b b' b'' c id notices} (hc : g.command now = .ok c)
      (h : b.request g.chargePoint c = .ok (id, b')) (hrest : Tries now gs b' b'' notices) :
      Tries now (g :: gs) b b'' notices
  | notSent {g gs b b' c e notices} (hc : g.command now = .ok c)
      (h : b.request g.chargePoint c = .error e) (hrest : Tries now gs b b' notices) :
      Tries now (g :: gs) b b' (.profileNotSent g.chargePoint g.connector e :: notices)
  | notBuilt {g gs b b' e notices} (hc : g.command now = .error e)
      (hrest : Tries now gs b b' notices) :
      Tries now (g :: gs) b b' (.profileNotBuilt e :: notices)

theorem tries_foldl_sendGrant (now : Timestamp) (gs : List Grant) (p : Plant) :
    ∃ notices, Tries now gs p.switchboard (gs.foldl (sendGrant now) p).switchboard notices ∧
      (gs.foldl (sendGrant now) p).ledger.journal = p.ledger.journal ++ notices := by
  induction gs generalizing p with
  | nil => exact ⟨[], .done _, (List.append_nil _).symm⟩
  | cons g rest ih =>
    obtain ⟨notices, hrest, hj⟩ := ih (sendGrant now p g)
    rw [List.foldl_cons]
    cases hc : g.command now with
    | error e =>
      have hsend : sendGrant now p g = p.note (.profileNotBuilt e) := by simp only [sendGrant, hc]
      rw [hsend] at hrest hj ⊢
      exact ⟨_, .notBuilt hc hrest, hj.trans (List.append_assoc ..)⟩
    | ok c =>
      cases hr : p.switchboard.request g.chargePoint c with
      | error e =>
        have hsend : sendGrant now p g = p.note (.profileNotSent g.chargePoint g.connector e) := by
          simp only [sendGrant, hc, command, hr]
        rw [hsend] at hrest hj ⊢
        exact ⟨_, .notSent hc hr hrest, hj.trans (List.append_assoc ..)⟩
      | ok r =>
        have hsend : sendGrant now p g = { p with switchboard := r.2 } := by
          simp only [sendGrant, hc, command, hr]
        rw [hsend] at hrest hj ⊢
        exact ⟨notices, .sent hc hr hrest, hj⟩

/-- The limits that are added up, in this order: those that stay, and those that are granted. -/
def summed (l : Ledger) (location : Location) (station : String) (grants : List Grant) :
    List Int32 :=
  held (smartConnectors l (site l location station)) ++ grants.map (·.amps)

/-- What a sharing of power at a location comes to, when this charge point asks for it: the grants,
and whether they are told. -/
structure Sharing (tiers : PowerTiers) (now : Timestamp) (location : Location) (station : String)
    (p : Plant) (grants : List Grant) (result : Option (List Grant)) (q : Plant) : Prop where
  frame : p.ledger.LimitsOnly q.ledger
  connector : ∀ s i, q.ledger.registry.connector? s i = (p.ledger.registry.connector? s i).map
    fun c => { c with limit := q.ledger.registry.limitAt s i }
  elsewhere : ∀ s, ¬p.ledger.TakesPart location station s → ∀ i,
    q.ledger.registry.connector? s i = p.ledger.registry.connector? s i
  idle : ∀ s i c, p.ledger.TakesPart location station s →
    p.ledger.registry.connector? s i = some c → c.isActive = false →
      q.ledger.registry.limitAt s i = 0
  keeps : ∀ s i c, p.ledger.TakesPart location station s →
    p.ledger.registry.connector? s i = some c → c.isActive = true → c.limit ≠ 0 →
      q.ledger.registry.limitAt s i = c.limit
  /-- Those are granted a limit that are active and have none. -/
  granted : ∀ g, g ∈ grants ↔ p.ledger.TakesPart location station g.chargePoint ∧
    ∃ c, p.ledger.registry.connector? g.chargePoint g.connector = some c ∧ c.isActive = true ∧
      c.limit = 0 ∧ c.transaction = g.transaction ∧
      q.ledger.registry.limitAt g.chargePoint g.connector = g.amps
  ascending : grants.Pairwise fun g g' => g.chargePoint < g'.chargePoint ∨
    g.chargePoint = g'.chargePoint ∧ g.connector < g'.connector
  /-- A tier is taken if somebody active held it all along or was granted it before. -/
  highest : ∀ before g later, grants = before ++ g :: later →
    tiers.Highest (fun x =>
      (∃ s i c, p.ledger.TakesPart location station s ∧
        p.ledger.registry.connector? s i = some c ∧ c.isActive = true ∧ c.limit = x) ∨
      ∃ g' ∈ before, g'.amps = x) g.amps
  told : AddsUp (summed p.ledger location station grants) → result = some grants ∧
    ∃ notices, Tries now grants p.switchboard q.switchboard notices ∧
      notices <:+ q.ledger.journal
  /-- Limits that cannot be added up are set, but nobody is told of them. -/
  untold : ¬AddsUp (summed p.ledger location station grants) →
    result = none ∧ q.switchboard = p.switchboard
  /-- The limits that changed are stored, if limits can be stored. -/
  stored : p.ledger.storage.Works .updateConnectorLimit → ∀ s i,
    q.ledger.database.connector? s i =
      if q.ledger.registry.limitAt s i = p.ledger.registry.limitAt s i then
        p.ledger.database.connector? s i
      else some { (p.ledger.database.connector? s i).getD { id := i } with
        limit := q.ledger.registry.limitAt s i }
  unstored : ¬p.ledger.storage.Works .updateConnectorLimit →
    q.ledger.database = p.ledger.database

section Sharing

variable {tiers : PowerTiers} {l : Ledger} {location : Location} {station : String} (hk : l.Keyed)
include hk

theorem mem_smartConnectors_of_takesPart {s : String} {i : UInt32} {c : Connector}
    (hs : l.TakesPart location station s) (hc : l.registry.connector? s i = some c) :
    (s, c) ∈ smartConnectors l (site l location station) :=
  (mem_smartConnectors_site hk.1.connector).2 ⟨hs, (hk.1.connector s i c hc).symm ▸ hc⟩

theorem mem_grants {g : Grant} :
    g ∈ (granted tiers (smartConnectors l (site l location station))).map Assignment.grant ↔
      l.TakesPart location station g.chargePoint ∧
        ∃ c, l.registry.connector? g.chargePoint g.connector = some c ∧ c.isActive = true ∧
          c.limit = 0 ∧ c.transaction = g.transaction ∧
          limitAfter tiers l location station g.chargePoint g.connector = g.amps := by
  rw [List.mem_map]
  constructor
  · rintro ⟨a, ha, rfl⟩
    have hwaits : a.1 ∈ waiting (smartConnectors l (site l location station)) :=
      (List.of_mem_zip ha).1
    simp only [waiting, List.mem_filter, beq_iff_eq] at hwaits
    obtain ⟨⟨hmem, hon⟩, h0⟩ := hwaits
    obtain ⟨hs, hc⟩ := (mem_smartConnectors_site hk.1.connector).1 hmem
    exact ⟨hs, _, hc, hon, h0, rfl, limitAfter_of_mem hk (List.mem_append_right _ ha)⟩
  · rintro ⟨hs, c, hc, hon, h0, htx, hamps⟩
    obtain ⟨station', i, transaction, amps⟩ := g
    obtain rfl : c.id = i := hk.1.connector _ _ _ hc
    have hwaits : (station', c) ∈ waiting (smartConnectors l (site l location station)) := by
      simp only [waiting, List.mem_filter, beq_iff_eq]
      exact ⟨⟨mem_smartConnectors_of_takesPart hk hs hc, hon⟩, h0⟩
    obtain ⟨x, ha⟩ := exists_granted tiers hwaits
    have hx := limitAfter_of_mem hk (List.mem_append_right _ ha)
    obtain rfl : x = amps := hx.symm.trans hamps
    obtain rfl : c.transaction = transaction := htx
    exact ⟨_, ha, rfl⟩

theorem exists_active_iff {x : Int32} :
    (∃ e ∈ smartConnectors l (site l location station), e.2.isActive = true ∧ e.2.limit = x) ↔
      ∃ s i c, l.TakesPart location station s ∧ l.registry.connector? s i = some c ∧
        c.isActive = true ∧ c.limit = x := by
  constructor
  · rintro ⟨e, he, hon, hx⟩
    obtain ⟨hs, hc⟩ := (mem_smartConnectors_site hk.1.connector).1 he
    exact ⟨e.1, e.2.id, e.2, hs, hc, hon, hx⟩
  · rintro ⟨s, i, c, hs, hc, hon, hx⟩
    exact ⟨(s, c), mem_smartConnectors_of_takesPart hk hs hc, hon, hx⟩

theorem limitAfter_of_idle {s : String} {i : UInt32} {c : Connector}
    (hs : l.TakesPart location station s) (hc : l.registry.connector? s i = some c)
    (hoff : c.isActive = false) : limitAfter tiers l location station s i = 0 := by
  obtain rfl : c.id = i := hk.1.connector s i c hc
  rcases limitAfter_cases tiers l location station s c.id with ⟨a, ha, hkey, he⟩ | ⟨hno, he⟩
  · have hac := eq_of_mem_plan hk hc ha hkey
    rcases assignments_cases ha with ⟨-, h0⟩ | ⟨hwaits, -⟩
    · exact he.trans h0
    · simp [waiting, hac, hoff] at hwaits
  · rw [he, Registry.limitAt_of_connector? hc]
    by_contra hne
    have hmem := mem_smartConnectors_of_takesPart hk hs hc
    exact hno _ (mem_plan_of_idle tiers hmem hoff hne) rfl

variable (hd : tiers.isDescending = true)
include hd

theorem connector?_database_assign (hw : l.storage.Works .updateConnectorLimit) (s : String)
    (i : UInt32) :
    (assign l (plan tiers l location station)).database.connector? s i =
      if limitAfter tiers l location station s i = l.registry.limitAt s i then
        l.database.connector? s i
      else some { (l.database.connector? s i).getD { id := i } with
        limit := limitAfter tiers l location station s i } := by
  rw [database_assign_of_works _ hw, connector?_foldl_limitConnector hk.2 (nodup_plan hk)]
  rw [limitAfter]
  cases hf : (plan tiers l location station).find? (·.key = (s, i)) with
  | none => rw [Option.elim_none, if_pos rfl, Option.map_none, Option.none_or]
  | some a =>
    have hkey : a.key = (s, i) := by simpa using List.find?_some hf
    have hne := limitAt_ne_of_mem_plan hk hd (List.mem_of_find?_eq_some hf)
    obtain ⟨rfl, rfl⟩ := Prod.mk.inj hkey
    rw [Option.elim_some, if_neg hne.symm]
    rfl

end Sharing

theorem summed_granted (tiers : PowerTiers) (l : Ledger) (location : Location) (station : String) :
    summed l location station
      ((granted tiers (smartConnectors l (site l location station))).map Assignment.grant) =
        heldAfter tiers (smartConnectors l (site l location station)) := by
  rw [summed, heldAfter, ← map_snd_granted, List.map_map]
  rfl

theorem registry_shareOut {p : Plant} (tiers : PowerTiers) (now : Timestamp) (location : Location)
    (cs : List (String × Connector)) : (p.shareOut tiers now location cs).2.ledger.registry =
      (assign p.ledger (assignments tiers cs)).registry :=
  registry_of_quiet (l := Ledger.quiet _) (quiet_shareOut tiers now location cs)

theorem database_shareOut {p : Plant} (tiers : PowerTiers) (now : Timestamp) (location : Location)
    (cs : List (String × Connector)) : (p.shareOut tiers now location cs).2.ledger.database =
      (assign p.ledger (assignments tiers cs)).database :=
  congrArg Storage.database
    (storage_of_quiet (l := Ledger.quiet _) (quiet_shareOut tiers now location cs))

theorem tries_shareOut {p : Plant} {tiers : PowerTiers} {cs : List (String × Connector)}
    (h : AddsUp (heldAfter tiers cs)) (now : Timestamp) (location : Location) :
    ∃ notices, Tries now ((granted tiers cs).map Assignment.grant) p.switchboard
        (p.shareOut tiers now location cs).2.switchboard notices ∧
      notices <:+ (p.shareOut tiers now location cs).2.ledger.journal := by
  rw [shareOut_eq, announce]
  cases hsum : addUp? (heldAfter tiers cs) with
  | none => exact absurd h (addUp?_eq_none_iff.1 hsum)
  | some sum =>
    obtain ⟨notices, ht, hj⟩ := tries_foldl_sendGrant now
      ((granted tiers cs).map Assignment.grant)
      (checkTotal { p with ledger := assign p.ledger (assignments tiers cs) } location sum)
    rw [switchboard_checkTotal] at ht
    exact ⟨notices, ht, _, hj.symm⟩

theorem untold_shareOut {p : Plant} {tiers : PowerTiers} {cs : List (String × Connector)}
    (h : ¬AddsUp (heldAfter tiers cs)) (now : Timestamp) (location : Location) :
    (p.shareOut tiers now location cs).1 = none ∧
      (p.shareOut tiers now location cs).2.switchboard = p.switchboard := by
  rw [shareOut_eq, announce, addUp?_eq_none_iff.2 h]
  exact ⟨rfl, rfl⟩

theorem sharing_shareOut {tiers : PowerTiers} (hd : tiers.isDescending = true) {p : Plant}
    (hk : p.ledger.Keyed) (now : Timestamp) (location : Location) (station : String) :
    Sharing tiers now location station p
      ((granted tiers (smartConnectors p.ledger (site p.ledger location station))).map
        Assignment.grant)
      (p.shareOut tiers now location (smartConnectors p.ledger (site p.ledger location station))).1
      (p.shareOut tiers now location
        (smartConnectors p.ledger (site p.ledger location station))).2 := by
  have hquiet := quiet_shareOut (p := p) tiers now location
    (smartConnectors p.ledger (site p.ledger location station))
  have htold (h : AddsUp (heldAfter tiers
      (smartConnectors p.ledger (site p.ledger location station)))) :=
    And.intro ((shareOut_fst (p := p) tiers now location _).trans (announced_of_addsUp h))
      (tries_shareOut (p := p) h now location)
  have huntold (h : ¬AddsUp (heldAfter tiers
      (smartConnectors p.ledger (site p.ledger location station)))) :=
    untold_shareOut (p := p) h now location
  have hreg := registry_shareOut (p := p) tiers now location
    (smartConnectors p.ledger (site p.ledger location station))
  have hdb := database_shareOut (p := p) tiers now location
    (smartConnectors p.ledger (site p.ledger location station))
  rw [← plan] at hquiet hreg hdb
  rw [← summed_granted] at htold huntold
  generalize p.shareOut tiers now location
    (smartConnectors p.ledger (site p.ledger location station)) = r
    at hquiet hreg hdb htold huntold ⊢
  obtain ⟨result, q⟩ := r
  have hlim (s : String) (i : UInt32) : q.ledger.registry.limitAt s i =
      limitAfter tiers p.ledger location station s i := by
    rw [hreg, limitAt_assign hk]
  have hcon (s : String) (i : UInt32) : q.ledger.registry.connector? s i =
      (p.ledger.registry.connector? s i).map
        fun c => { c with limit := q.ledger.registry.limitAt s i } := by
    rw [hlim, hreg, connector?_assign hk]
  refine
    { frame := (limitsOnly_assign _).trans (.of_quiet hquiet)
      connector := hcon
      elsewhere := fun s hs i => ?_
      idle := fun s i c hs hc hoff => ?_
      keeps := fun s i c hs hc hon hne => ?_
      granted := fun g => ?_
      ascending := ascending_grants
        (ascending_smartConnectors hk.1.connector (Table.sorted_keys _))
      highest := fun before g later hg => ?_
      told := htold
      untold := huntold
      stored := fun hw s i => ?_
      unstored := fun hw => hdb.trans (database_assign_of_not_works _ hw) }
  · rw [hcon, hlim, limitAfter_of_not_takesPart hk hs]
    cases hc : p.ledger.registry.connector? s i with
    | none => rfl
    | some c => rw [Option.map_some, Registry.limitAt_of_connector? hc]
  · rw [hlim]
    exact limitAfter_of_idle hk hs hc hoff
  · rw [hlim]
    exact limitAfter_of_active hk hc hon hne
  · simp only [hlim]
    exact mem_grants hk
  · refine (highest_of_grants_eq hd hg).congr ?_ ?_ <;> rw [exists_active_iff hk]
  · rw [hdb, hlim]
    exact connector?_database_assign hk hd hw s i

namespace Sharing

variable {tiers : PowerTiers} {now : Timestamp} {location : Location} {station : String}
  {p q : Plant} {grants : List Grant} {result : Option (List Grant)}
  (h : Sharing tiers now location station p grants result q)
  (hd : tiers.isDescending = true)
include h hd

theorem ne_zero_of_mem {g : Grant} (hg : g ∈ grants) : g.amps ≠ 0 := by
  obtain ⟨hf, hm, hh, -⟩ := PowerTiers.ne_of_isDescending hd
  obtain ⟨before, later, he⟩ := List.append_of_mem hg
  have hamps := h.highest before g later he
  generalize g.amps = x at hamps ⊢
  cases hamps with
  | high => exact hh
  | middle => exact hm
  | floor => exact hf

theorem limit_ne_zero_iff {s : String} {i : UInt32} {c : Connector}
    (hs : p.ledger.TakesPart location station s)
    (hc : q.ledger.registry.connector? s i = some c) : c.limit ≠ 0 ↔ c.isActive = true := by
  have hlim := Registry.limitAt_of_connector? hc
  rw [h.connector] at hc
  obtain ⟨c₀, hc₀, rfl⟩ := Option.map_eq_some_iff.1 hc
  show q.ledger.registry.limitAt s i ≠ 0 ↔ c₀.isActive = true
  cases hon : c₀.isActive with
  | false => simp [h.idle s i c₀ hs hc₀ hon]
  | true =>
    refine iff_of_true ?_ rfl
    by_cases h0 : c₀.limit = 0
    · have hg : ⟨s, i, c₀.transaction, q.ledger.registry.limitAt s i⟩ ∈ grants :=
        (h.granted _).2 ⟨hs, c₀, hc₀, hon, h0, rfl, rfl⟩
      exact h.ne_zero_of_mem hd hg
    · rw [h.keeps s i c₀ hs hc₀ hon h0]
      exact h0

variable (hk : p.ledger.Keyed)
include hk

theorem idle_waiting_eq_nil :
    Plant.idle (smartConnectors q.ledger (site q.ledger location station)) = [] ∧
      waiting (smartConnectors q.ledger (site q.ledger location station)) = [] := by
  have hkey : ∀ s i c, q.ledger.registry.connector? s i = some c → c.id = i := by
    intro s i c hc
    rw [h.connector] at hc
    obtain ⟨c₀, hc₀, rfl⟩ := Option.map_eq_some_iff.1 hc
    exact hk.1.connector s i c₀ hc₀
  have hlimit : ∀ e ∈ smartConnectors q.ledger (site q.ledger location station),
      (e.2.limit ≠ 0 ↔ e.2.isActive = true) := by
    intro e he
    obtain ⟨hs, hc⟩ := (mem_smartConnectors_site hkey).1 he
    exact h.limit_ne_zero_iff hd (h.frame.takesPart_iff.1 hs) hc
  constructor
  · refine List.filter_eq_nil_iff.2 fun e he hidle => ?_
    simp only [Bool.and_eq_true, bne_iff_ne, (hlimit e he)] at hidle
    simp [hidle.2] at hidle
  · refine List.filter_eq_nil_iff.2 fun e he hwaits => ?_
    obtain ⟨he, hon⟩ := List.mem_filter.1 he
    exact (hlimit e he).2 hon (by simpa using hwaits)

/-- Another sharing of power grants nothing, sends nothing and changes nothing. -/
theorem again (hcp : p.ledger.storage.Works .getChargePoint)
    (hl : p.ledger.storage.Works .getLocation)
    (hloc : p.ledger.database.locationOf? station = some location) (later : Timestamp) :
    ∃ result' q', q.checkPowerLimit tiers later station = .ok (result', q') ∧
      (AddsUp (summed q.ledger location station []) → result' = some []) ∧
      (¬AddsUp (summed q.ledger location station []) → result' = none) ∧
      q'.switchboard = q.switchboard ∧ q'.ledger.quiet = q.ledger.quiet := by
  obtain ⟨hidle, hwaits⟩ := h.idle_waiting_eq_nil hd hk
  have hgranted : Plant.granted tiers
      (smartConnectors q.ledger (site q.ledger location station)) = [] := by
    rw [Plant.granted, hwaits]
    rfl
  have hassign : assignments tiers
      (smartConnectors q.ledger (site q.ledger location station)) = [] := by
    rw [assignments, hidle, hgranted]
    rfl
  have hworks {operation : StorageOperation} (hw : p.ledger.storage.Works operation) :
      q.ledger.storage.Works operation := by
    rwa [Storage.Works, h.frame.broken]
  have hcheck := checkPowerLimit_of_works (hworks hcp) (hworks hl)
    ((h.frame.locationOf? station).trans hloc) tiers later
  have hquiet := quiet_shareOut (p := q) tiers later location
    (smartConnectors q.ledger (site q.ledger location station))
  rw [hassign] at hquiet
  have hresult := shareOut_fst (p := q) tiers later location
    (smartConnectors q.ledger (site q.ledger location station))
  have hsent := switchboard_shareOut (p := q) tiers later location
    (smartConnectors q.ledger (site q.ledger location station))
  have hsummed := summed_granted tiers q.ledger location station
  rw [hresult, announced] at hsent
  rw [announced] at hresult
  rw [hgranted] at hsent hresult hsummed
  rw [← hsummed] at hsent hresult
  generalize q.shareOut tiers later location
    (smartConnectors q.ledger (site q.ledger location station)) = r at hcheck hquiet hsent hresult
  obtain ⟨result', q'⟩ := r
  refine ⟨result', q', hcheck, fun hadds => ?_, fun hadds => ?_, ?_, hquiet⟩
  · obtain ⟨sum, hsum⟩ := exists_addUp?_eq hadds
    exact hresult.trans (by rw [List.map_nil, hsum]; rfl)
  · exact hresult.trans (by rw [List.map_nil, addUp?_eq_none_iff.2 hadds]; rfl)
  · refine hsent.trans ?_
    cases addUp? _ <;> rfl

end Sharing

/-- A charge point whose record names a location gets the power shared out there: what comes of it
is a sharing of power, behind which another one makes no difference. -/
theorem sharing_checkPowerLimit {tiers : PowerTiers} (hd : tiers.isDescending = true) {p : Plant}
    (hk : p.ledger.Keyed) (hcp : p.ledger.storage.Works .getChargePoint)
    (hl : p.ledger.storage.Works .getLocation) {location : Location} {station : String}
    (hloc : p.ledger.database.locationOf? station = some location) (now : Timestamp) :
    ∃ result q, p.checkPowerLimit tiers now station = .ok (result, q) ∧
      ∃ grants, Sharing tiers now location station p grants result q ∧
        ∀ later, ∃ result' q', q.checkPowerLimit tiers later station = .ok (result', q') ∧
          (AddsUp (summed q.ledger location station []) → result' = some []) ∧
          (¬AddsUp (summed q.ledger location station []) → result' = none) ∧
          q'.switchboard = q.switchboard ∧ q'.ledger.quiet = q.ledger.quiet := by
  have hs := sharing_shareOut hd hk now location station
  exact ⟨_, _, checkPowerLimit_of_works hcp hl hloc tiers now, _, hs, hs.again hd hk hcp hl hloc⟩

end Plant

/-- The depot at a busy hour. In the south a limit is left over from a transaction that has ended,
and the highest tier is held. -/
def Database.busyDepot : Database :=
  depot.putConnector "south" { id := 1, limit := 16 }
    |>.putConnector "south" { id := 2, status := .charging, transaction := 8, limit := 32 }
    |>.putTransaction
      { id := 8, chargePoint := "south", connector := 2, idTag := "tag", meterStart := 0,
        timeStart := .epoch }

theorem Database.keyed_busyDepot : busyDepot.Keyed := by
  apply Keyed.putTransaction
  apply Keyed.putConnector
  apply Keyed.putConnector
  exact keyed_depot

def Plant.busyDepot : Plant where
  ledger := (Ledger.load { database := .busyDepot }).toOption.getD default
  switchboard := {}

theorem Plant.keyed_busyDepot : busyDepot.ledger.Keyed := by
  obtain ⟨l, hl, hs, hloads⟩ := Ledger.load_ok Database.keyed_busyDepot
  have hledger : busyDepot.ledger = l := by rw [busyDepot, hl]; rfl
  rw [hledger, Ledger.Keyed, Ledger.database, hs]
  exact ⟨hloads.keyed Database.keyed_busyDepot, Database.keyed_busyDepot⟩

theorem Plant.sharing_checkPowerLimit_busyDepot :
    ∃ q, busyDepot.checkPowerLimit ⟨32, 16, 6⟩ .epoch "south" =
        .ok (some [⟨"north", 1, 7, 16⟩], q) ∧
      q.ledger.registry.limitAt "south" 1 = 0 ∧ q.ledger.registry.limitAt "south" 2 = 32 ∧
      q.ledger.registry.limitAt "north" 1 = 16 ∧
      ∀ later, ∃ q', q.checkPowerLimit ⟨32, 16, 6⟩ later "south" = .ok (some [], q') := by
  have hd : PowerTiers.isDescending ⟨32, 16, 6⟩ = true := by decide
  have hloc : busyDepot.ledger.database.locationOf? "south" =
      some ⟨"depot", "Depot", 32, 64, ["north"]⟩ := by decide +kernel
  obtain ⟨result, q, hq, grants, hs, hagain⟩ := sharing_checkPowerLimit hd keyed_busyDepot
    (by decide +kernel) (by decide +kernel) hloc .epoch
  have hrun : (busyDepot.checkPowerLimit ⟨32, 16, 6⟩ .epoch "south").toOption.map (fun r =>
      (r.1, summed r.2.ledger ⟨"depot", "Depot", 32, 64, ["north"]⟩ "south" [])) =
        some (some [⟨"north", 1, 7, 16⟩], [16, 32]) := by decide +kernel
  rw [hq] at hrun
  obtain ⟨rfl, hsummed⟩ := Prod.mk.inj (Option.some.inj hrun)
  have hgrants : grants = [⟨"north", 1, 7, 16⟩] := by
    by_cases hadds : AddsUp (summed busyDepot.ledger ⟨"depot", "Depot", 32, 64, ["north"]⟩ "south"
        grants)
    · exact (Option.some.inj (hs.told hadds).1).symm
    · exact nomatch (hs.untold hadds).1
  have hsouth : busyDepot.ledger.TakesPart ⟨"depot", "Depot", 32, 64, ["north"]⟩ "south" "south" :=
    ⟨by decide +kernel, by decide +kernel, .inl rfl⟩
  have hnorth := (hs.granted ⟨"north", 1, 7, 16⟩).1 (hgrants ▸ List.mem_singleton.2 rfl)
  refine ⟨q, hq, ?_, ?_, ?_, fun later => ?_⟩
  · exact hs.idle "south" 1 { id := 1, limit := 16 } hsouth (by decide +kernel) rfl
  · exact hs.keeps "south" 2 { id := 2, status := .charging, transaction := 8, limit := 32 } hsouth
      (by decide +kernel) rfl (by decide)
  · obtain ⟨-, c, -, -, -, -, hlim⟩ := hnorth
    exact hlim
  · obtain ⟨result', q', hq', hsome, -⟩ := hagain later
    have hadds : AddsUp [16, 32] := by decide
    rw [hsome (hsummed ▸ hadds)] at hq'
    exact ⟨q', hq'⟩

/-- With the highest tiers there are, what the north is granted does not add up with what the south
holds. The limit is set, and nothing is told or even tried. -/
theorem Plant.overflow_tells_nobody :
    PowerTiers.isDescending ⟨2147483647, 2147483646, 2147483645⟩ = true ∧
      busyDepot.ledger.Keyed ∧ busyDepot.ledger.storage.broken = [] ∧
      (busyDepot.ledger.database.locationOf? "south").isSome = true ∧
      ∃ q, busyDepot.checkPowerLimit ⟨2147483647, 2147483646, 2147483645⟩ .epoch "south" =
          .ok (none, q) ∧
        q.ledger.registry.limitAt "south" 2 = 32 ∧
        q.ledger.registry.limitAt "north" 1 = 2147483647 ∧
        q.ledger.journal = busyDepot.ledger.journal ++ [.addOverflow] := by
  refine ⟨by decide, keyed_busyDepot, by decide +kernel, by decide +kernel, ?_⟩
  have hrun : (busyDepot.checkPowerLimit ⟨2147483647, 2147483646, 2147483645⟩ .epoch
      "south").toOption.map (fun r => (r.1, r.2.ledger.registry.limitAt "south" 2,
        r.2.ledger.registry.limitAt "north" 1, r.2.ledger.journal)) =
      some (none, 32, 2147483647, busyDepot.ledger.journal ++ [.addOverflow]) := by decide +kernel
  cases hq : busyDepot.checkPowerLimit ⟨2147483647, 2147483646, 2147483645⟩ .epoch "south" with
  | error e => simp [hq, Except.toOption] at hrun
  | ok r =>
    obtain ⟨result, q⟩ := r
    rw [hq] at hrun
    obtain ⟨rfl, hrun⟩ := Prod.mk.inj (Option.some.inj hrun)
    obtain ⟨hsouth, hrun⟩ := Prod.mk.inj hrun
    obtain ⟨hnorth, hjournal⟩ := Prod.mk.inj hrun
    exact ⟨q, rfl, hsouth, hnorth, hjournal⟩

end CentralSystem
