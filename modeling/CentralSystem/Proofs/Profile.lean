import CentralSystem.Proofs.Allotment
import CentralSystem.Proofs.Sending

namespace CentralSystem

theorem flatMap_eq_of_forall_ne {α β : Type} {l : List α} {f : α → List β} {a : α} (hn : l.Nodup)
    (ha : a ∈ l) (h : ∀ b ∈ l, b ≠ a → f b = []) : l.flatMap f = f a := by
  obtain ⟨l₁, l₂, rfl⟩ := List.append_of_mem ha
  obtain ⟨-, hn₂, hdisjoint⟩ := List.nodup_append.1 hn
  have h₁ : ∀ b ∈ l₁, f b = [] := fun b hb =>
    h b (List.mem_append_left _ hb) (hdisjoint b hb a List.mem_cons_self)
  have h₂ : ∀ b ∈ l₂, f b = [] := fun b hb =>
    h b (List.mem_append_right _ (List.mem_cons_of_mem _ hb)) fun he =>
      (List.nodup_cons.1 hn₂).1 (he ▸ hb)
  rw [List.flatMap_append, List.flatMap_cons, List.flatMap_eq_nil_iff.2 h₁,
    List.flatMap_eq_nil_iff.2 h₂, List.nil_append, List.append_nil]

namespace Switchboard

variable {s s' : Switchboard} {station : String} {ds : List Delivery}

def Placed (s : Switchboard) : Prop :=
  ∀ station id, s.online.get? station = some id →
    (s.connection? id).map (·.station) = some station

/-- The profiles for transactions that were queued for a charge point in between. -/
def profiles (s s' : Switchboard) (station : String) : List Command.SetChargingProfile :=
  (s'.connections.values.filter (·.station == station)).flatMap fun c =>
    Delivery.among (c.outbox.drop (s.outbox c.id).length)

theorem Sound.mem_values (hs : s.Sound) {c : Connection} :
    c ∈ s.connections.values ↔ s.connection? c.id = some c := by
  rw [Table.mem_values_iff]
  constructor
  · rintro ⟨id, hc⟩
    obtain rfl : c.id = id := hs.id hc
    exact hc
  · intro hc
    exact ⟨c.id, hc⟩

theorem Sound.nodup_values (hs : s.Sound) : s.connections.values.Nodup := by
  have hkeys : s.connections.values.map (·.id) = s.connections.keys :=
    Table.map_values fun id c hc => hs.id hc
  exact List.Nodup.of_map _ (hkeys ▸ s.connections.keys_nodup)

theorem profiles_of_outbox (hs : s'.Sound)
    (h : ∀ id, s'.outbox id = s.outbox id ∨ s'.outbox id = []) (station : String) :
    s.profiles s' station = [] := by
  refine List.flatMap_eq_nil_iff.2 fun c hc => ?_
  have hcon := hs.mem_values.1 (List.mem_filter.1 hc).1
  have hout : s'.outbox c.id = c.outbox := by rw [outbox, hcon]; rfl
  rw [← hout]
  rcases h c.id with he | he
  · rw [he, List.drop_length]
    rfl
  · rw [he, List.drop_nil]
    rfl

theorem Sends.placed (h : s.Sends s' ds) (hp : s.Placed) : s'.Placed := by
  intro station id hid
  rw [h.online] at hid
  have hface := congrArg (Option.map Prod.fst) (h.face id)
  rw [Option.map_map, Option.map_map] at hface
  exact hface.trans (hp station id hid)

theorem Sends.among_drop (h : s.Sends s' ds) (hp : s.Placed) {c : Connection}
    (hc : s'.connection? c.id = some c) (hstation : c.station = station) :
    Delivery.among (c.outbox.drop (s.outbox c.id).length) =
      if s.online.get? station = some c.id then (ds.filter (·.1 = station)).map (·.2) else [] := by
  obtain ⟨texts, he, hd⟩ := h.outbox c.id
  have hout : s'.outbox c.id = c.outbox := by rw [Switchboard.outbox, hc]; rfl
  rw [← hout, he, List.drop_left, hd]
  have hiff : ∀ d ∈ ds, (s.online.get? d.1 = some c.id ↔
      d.1 = station ∧ s.online.get? station = some c.id) := by
    intro d hd
    constructor
    · intro honline
      have hown := h.placed hp d.1 c.id (h.online ▸ honline)
      rw [hc, Option.map_some, Option.some.injEq] at hown
      obtain rfl : d.1 = station := hown.symm.trans hstation
      exact ⟨rfl, honline⟩
    · rintro ⟨rfl, honline⟩
      exact honline
  split
  · next honline =>
    congr 1
    refine List.filter_congr fun d hd => ?_
    simp [hiff d hd, honline]
  · next honline =>
    rw [List.map_eq_nil_iff]
    refine List.filter_eq_nil_iff.2 fun d hd => ?_
    simp [hiff d hd, honline]

theorem Sends.profiles (h : s.Sends s' ds) (hs : s'.Sound) (hp : s.Placed)
    (hr : ∀ d ∈ ds, s.reaches d.1 = true) (station : String) :
    s.profiles s' station = (ds.filter (·.1 = station)).map (·.2) := by
  cases hds : ds.filter (·.1 = station) with
  | nil =>
    refine List.flatMap_eq_nil_iff.2 fun c hc => ?_
    obtain ⟨hc, hstation⟩ := List.mem_filter.1 hc
    rw [h.among_drop hp (hs.mem_values.1 hc) (by simpa using hstation), hds]
    split <;> rfl
  | cons d rest =>
    have hmem : d ∈ ds.filter (·.1 = station) := hds ▸ List.mem_cons_self
    obtain ⟨hd, hstation⟩ := List.mem_filter.1 hmem
    obtain rfl : d.1 = station := by simpa using hstation
    obtain ⟨c₀, hc₀, -⟩ := (Option.any_eq_true _ _).1 (hr d hd)
    obtain ⟨id, honline, -⟩ := Option.bind_eq_some_iff.1 hc₀
    obtain ⟨c, hc, hown⟩ := Option.map_eq_some_iff.1 (h.placed hp d.1 id (h.online ▸ honline))
    obtain rfl : c.id = id := hs.id hc
    have hin : c ∈ s'.connections.values.filter (·.station == d.1) :=
      List.mem_filter.2 ⟨hs.mem_values.2 hc, by simpa using hown⟩
    rw [Switchboard.profiles, flatMap_eq_of_forall_ne (hs.nodup_values.filter _) hin,
      h.among_drop hp hc hown, if_pos honline, hds]
    -- Another connection of the charge point is not the one over which it is reached.
    intro b hb hne
    obtain ⟨hb, hstation⟩ := List.mem_filter.1 hb
    have hb := hs.mem_values.1 hb
    rw [h.among_drop hp hb (by simpa using hstation), if_neg]
    intro hsame
    have hid : c.id = b.id := Option.some.inj (honline.symm.trans hsame)
    rw [← hid, hc] at hb
    exact hne (Option.some.inj hb).symm

section Rewired

variable (hs : s.Sound) (hp : s.Placed)
include hp

theorem Placed.of_online (hc : ∀ id, (s'.connection? id).map (·.station) =
    (s.connection? id).map (·.station))
    (ho : ∀ station id, s'.online.get? station = some id → s.online.get? station = some id) :
    s'.Placed :=
  fun station id hid => (hc id).trans (hp station id (ho station id hid))

include hs in
theorem Placed.connect (station : String) : (s.connect station).2.Placed := by
  intro station' id hid
  have honline : (s.online.insert station s.nextConnection).get? station' = some id := hid
  rw [Table.get?_insert] at honline
  rw [connection?_connect]
  split at honline
  · next he =>
    obtain rfl := Option.some.inj honline
    rw [if_pos rfl, he]
    rfl
  · have hold := hp station' id honline
    obtain ⟨c, hc, -⟩ := Option.map_eq_some_iff.1 hold
    rw [if_neg (Nat.ne_of_lt (hs.fresh hc))]
    exact hold

theorem Placed.disconnect (id : Nat) : (s.disconnect id).2.Placed := by
  refine hp.of_online (fun i => ?_) fun station i hi => ?_
  · rw [connection?, s.connections_disconnect, connection?]
  · unfold Switchboard.disconnect at hi
    split at hi
    · split at hi
      · dsimp only at hi
        rw [Table.get?_erase] at hi
        split at hi
        · cases hi
        · exact hi
      · exact hi
    · exact hi

theorem Placed.hangUp (id : Nat) : (s.hangUp id).Placed := by
  refine hp.of_online (fun i => ?_) fun _ _ hi => hi
  rw [s.connection?_hangUp, Option.map_map]
  congr 1
  funext c
  by_cases he : i = id <;> simp [he]

theorem Placed.flush : s.flush.Placed := by
  refine hp.of_online (fun i => ?_) fun _ _ hi => hi
  rw [s.connection?_flush, Option.map_map]
  rfl

end Rewired

end Switchboard

namespace Plant

variable {tiers : PowerTiers} {now : Timestamp} {l : Ledger} {station : String}

theorem mem_deliveries {d : Delivery} : d ∈ deliveries tiers now l station ↔
    ∃ location, l.database.locationOf? station = some location ∧
      AddsUp (heldAfter tiers (smartConnectors l (site l location station))) ∧
      ∃ a ∈ granted tiers (smartConnectors l (site l location station)),
        a.grant.delivery? now = some d := by
  unfold deliveries
  cases l.database.locationOf? station with
  | none => simp
  | some location =>
    simp only [Option.elim_some, List.mem_filterMap, mem_announced, Option.some.injEq,
      exists_eq_left']
    constructor
    · rintro ⟨g, ⟨hadds, a, ha, rfl⟩, hd⟩
      exact ⟨hadds, a, ha, hd⟩
    · rintro ⟨hadds, a, ha, hd⟩
      exact ⟨a.grant, ⟨hadds, a, ha, rfl⟩, hd⟩

theorem smart_of_mem_deliveries (hk : l.Keyed) {d : Delivery}
    (h : d ∈ deliveries tiers now l station) : l.database.isSmart d.1 = true := by
  obtain ⟨location, -, -, a, ha, hd⟩ := mem_deliveries.1 h
  have hmem := (mem_smartConnectors hk.1.connector).1
    (mem_of_mem_assignments (List.mem_append_right _ ha)).1
  rw [Grant.delivery?_eq] at hd
  split at hd
  · obtain rfl := Option.some.inj hd
    exact hmem.2.1
  · cases hd

end Plant

namespace Plant

theorem siteAddsUp_of_checkPowerLimit {p q : Plant} {tiers : PowerTiers} {now : Timestamp}
    {station : String} {result : Option (List Grant)} (hw : p.ledger.storage.broken = [])
    (hq : p.checkPowerLimit tiers now station = .ok (result, q))
    (hno : Notice.addOverflow ∉ q.ledger.journal) : SiteAddsUp tiers p.ledger station := by
  intro location hl
  by_contra hnot
  have hshared := (checkPowerLimit_of_some hw hl tiers now).symm.trans hq
  rw [shareOut_eq, announce, addUp?_eq_none_iff.2 hnot] at hshared
  obtain ⟨-, rfl⟩ := Prod.mk.inj (Except.ok.inj hshared)
  exact hno (List.mem_append_right _ (List.mem_singleton.2 rfl))

end Plant

def Command.SetChargingProfile.isFor (r : Command.SetChargingProfile) (connector : UInt32) : Bool :=
  r.connectorId.toInt == connector.toNat

def Delivery.to (station : String) (connector : UInt32) (ds : List Delivery) :
    List ChargingProfile :=
  (((ds.filter (·.1 = station)).map (·.2)).filter (·.isFor connector)).map (·.csChargingProfiles)

/-- The profile that brings a limit to a connector for a transaction. -/
def ChargingProfile.granting (transaction limit : Int32) (now : Timestamp) : ChargingProfile :=
  .ofLimit transaction .txProfile (some transaction) limit now

namespace Ledger

open Plant Registry

section Deliveries

variable {tiers : PowerTiers} {now : Timestamp} {l : Ledger} {location : Location}
  {station s : String} {n : UInt32} (hl : l.database.locationOf? station = some location)
  (hn : n.toNat < 2 ^ 31)
include hl hn

theorem mem_to_deliveries {p : ChargingProfile} :
    p ∈ Delivery.to s n (deliveries tiers now l station) ↔
      AddsUp (heldAfter tiers (smartConnectors l (site l location station))) ∧
      ∃ a ∈ granted tiers (smartConnectors l (site l location station)),
        a.key = (s, n) ∧ p = .granting a.1.2.transaction a.2 now := by
  constructor
  · intro hp
    obtain ⟨r, hr, rfl⟩ := List.mem_map.1 hp
    obtain ⟨hr, hfor⟩ := List.mem_filter.1 hr
    obtain ⟨d, hd, rfl⟩ := List.mem_map.1 hr
    obtain ⟨hd, hstation⟩ := List.mem_filter.1 hd
    obtain ⟨location', hl', hadds, a, ha, hdelivery⟩ := mem_deliveries.1 hd
    obtain rfl := Option.some.inj (hl.symm.trans hl')
    rw [Grant.delivery?_eq] at hdelivery
    split at hdelivery
    · next hroom =>
      obtain rfl := Option.some.inj hdelivery
      have hs : a.grant.chargePoint = s := by simpa using hstation
      refine ⟨hadds, a, ha, Prod.ext hs ?_, rfl⟩
      have hnumber : (Int32.ofNat a.grant.connector.toNat).toInt = n.toNat := by
        simpa [Command.SetChargingProfile.isFor] using hfor
      rw [Int32.toInt_ofNat_of_lt hroom] at hnumber
      exact UInt32.toNat_inj.1 (Int.ofNat_inj.1 hnumber)
    · cases hdelivery
  · rintro ⟨hadds, a, ha, hkey, rfl⟩
    obtain ⟨rfl, rfl⟩ := Prod.mk.inj hkey
    have hd : a.grant.delivery? now = some (a.1.1, ⟨.ofNat a.1.2.id.toNat,
        .granting a.1.2.transaction a.2 now⟩) :=
      (Grant.delivery?_eq now a.grant).trans (if_pos hn)
    refine List.mem_map.2 ⟨_, List.mem_filter.2 ⟨List.mem_map.2 ⟨_, List.mem_filter.2
      ⟨mem_deliveries.2 ⟨location, hl, hadds, a, ha, hd⟩, ?_⟩, rfl⟩, ?_⟩, rfl⟩
    · simp
    · simp [Command.SetChargingProfile.isFor, Int32.toInt_ofNat_of_lt hn]

/-- Behind a sharing of power, a connector was sent the limit that it was granted, or it was sent
nothing and has no other limit than before. -/
theorem to_deliveries_cases (hadds : SiteAddsUp tiers l station) (now : Timestamp)
    {c : Connector} (hk : l.Keyed) (hc : l.registry.connector? s n = some c) :
    (Delivery.to s n (deliveries tiers now l station)).getLast? =
        some (.granting c.transaction (limitAfter tiers l location station s n) now) ∨
      Delivery.to s n (deliveries tiers now l station) = [] ∧
        (limitAfter tiers l location station s n ≠ 0 →
          limitAfter tiers l location station s n = l.registry.limitAt s n) := by
  rcases limitAfter_cases tiers l location station s n with ⟨a, ha, hkey, he⟩ | ⟨hno, he⟩
  · have hac := eq_of_mem_plan hk hc ha hkey
    -- Whatever the connector is sent, it is sent because of this assignment.
    have honly {p : ChargingProfile} (hp : p ∈ Delivery.to s n (deliveries tiers now l station)) :
        a ∈ granted tiers (smartConnectors l (site l location station)) ∧
          p = .granting c.transaction (limitAfter tiers l location station s n) now := by
      obtain ⟨-, a', hg, hkey', rfl⟩ := (mem_to_deliveries hl hn).1 hp
      have hnodup : ((plan tiers l location station).map Assignment.key).Nodup :=
        nodup_assignments (nodup_smartConnectors hk.1.connector (Table.keys_nodup _))
      obtain rfl := List.inj_on_of_nodup_map hnodup (List.mem_append_right _ hg) ha
        (hkey'.trans hkey.symm)
      exact ⟨hg, by rw [hac, he]⟩
    rcases assignments_cases ha with ⟨hidle, h0⟩ | ⟨-, hg⟩
    · refine .inr ⟨List.eq_nil_iff_forall_not_mem.2 fun p hp => ?_, fun hne => ?_⟩
      · have hwaits := (List.of_mem_zip (honly hp).1).1
        simp only [idle, waiting, List.mem_filter, Bool.and_eq_true, Bool.not_eq_eq_eq_not,
          Bool.not_true] at hidle hwaits
        simp [hidle.2.1] at hwaits
      · exact absurd (he.trans h0) hne
    · left
      have hmem : .granting a.1.2.transaction a.2 now ∈
          Delivery.to s n (deliveries tiers now l station) :=
        (mem_to_deliveries hl hn).2 ⟨hadds location hl, a, hg, hkey, rfl⟩
      obtain ⟨p, hp⟩ := Option.isSome_iff_exists.1
        (List.getLast?_isSome.2 (List.ne_nil_of_mem hmem))
      rw [hp, (honly (List.mem_of_getLast? hp)).2]
  · refine .inr ⟨List.eq_nil_iff_forall_not_mem.2 fun p hp => ?_, fun _ => he⟩
    obtain ⟨-, a, ha, hkey, -⟩ := (mem_to_deliveries hl hn).1 hp
    exact hno a (List.mem_append_right _ ha) hkey

end Deliveries

end Ledger

namespace Hub

open Ledger

variable {h : Hub} {tiers : PowerTiers}

/-- The profiles that a step queues for a connector. -/
def profiles (h : Hub) (station : String) (connector : UInt32) (i : HubStep) :
    List ChargingProfile :=
  ((h.plant.switchboard.profiles (h.step i).plant.switchboard station).filter
    (·.isFor connector)).map (·.csChargingProfiles)

def allProfiles (h : Hub) (station : String) (connector : UInt32) :
    List HubStep → List ChargingProfile
  | [] => []
  | i :: rest => h.profiles station connector i ++ (h.step i).allProfiles station connector rest

/-- Whether every charge point that takes profiles can be reached. -/
def reachesAll (h : Hub) : Bool :=
  h.plant.ledger.database.chargePoints.entries.all fun e =>
    !e.2.smartCharging || h.plant.switchboard.reaches e.1

def attains (h : Hub) (i : HubStep) : Bool :=
  h.delivers i && ((h.sharer? i).isNone || h.reachesAll)

def overflowed (h : Hub) : Bool := h.plant.ledger.journal.contains .addOverflow

/-- Whether a step puts no transaction on a connector that has a limit already. -/
def retains (station : String) (connector : UInt32) (h : Hub) (i : HubStep) : Bool :=
  (h.plant.ledger.registry.connector? station connector).all fun c => c.limit == 0 ||
    ((h.step i).plant.ledger.registry.connector? station connector).all fun c' =>
      !c'.isActive || c'.transaction == c.transaction

theorem reaches_of_reachesAll (h : Hub) (hr : h.reachesAll = true) {s : String}
    (hs : h.plant.ledger.database.isSmart s = true) : h.plant.switchboard.reaches s = true := by
  obtain ⟨cp, hcp, hsmart⟩ := (Option.any_eq_true _ _).1 hs
  have hall := List.all_eq_true.1 hr _ (Table.mem_entries_iff.2 hcp)
  simpa [hsmart] using hall

theorem reaches_of_attains {i : HubStep} (hi : h.attains i = true)
    (hsome : (h.sharer? i).isSome = true) {s : String}
    (hs : h.plant.ledger.database.isSmart s = true) : h.plant.switchboard.reaches s = true := by
  obtain ⟨-, hall⟩ := Bool.and_eq_true_iff.1 hi
  have hnone : (h.sharer? i).isNone = false := by simpa using hsome
  rw [hnone, Bool.false_or] at hall
  exact h.reaches_of_reachesAll hall hs

namespace Running

variable (hr : h.Running tiers)
include hr

theorem siteAddsUp_followUp {now : Timestamp} {station : String} {r : Request}
    (hshares : r.sharesPower = true) (hno : (h.followUp now station r).overflowed = false) :
    Plant.SiteAddsUp tiers h.plant.ledger station := by
  obtain ⟨result, q, hq, -⟩ := Plant.quiet_checkPowerLimit hr.whole tiers now station
  rw [followUp_of_sharesPower hr.sharing hshares hq] at hno
  exact Plant.siteAddsUp_of_checkPowerLimit hr.whole hq (by simpa [overflowed] using hno)

theorem siteAddsUp_balance {now : Timestamp} {station : String}
    (hno : (h.balance now station).overflowed = false) :
    Plant.SiteAddsUp tiers h.plant.ledger station := by
  obtain ⟨result, q, hq, -⟩ := Plant.quiet_checkPowerLimit hr.whole tiers now station
  simp only [balance, hr.sharing, hq] at hno
  exact Plant.siteAddsUp_of_checkPowerLimit hr.whole hq (by simpa [overflowed] using hno)

theorem siteAddsUp_step {i : HubStep} (hi : h.delivers i = true)
    (hno : (h.step i).overflowed = false) {e : Timestamp × String}
    (hs : h.sharer? i = some e) : Plant.SiteAddsUp tiers (h.answered i) e.2 := by
  cases i with
  | receive now id text =>
    unfold sharer? at hs
    unfold answered
    cases hc : h.plant.switchboard.connection? id with
    | none => simp [hc] at hs
    | some c =>
      cases htext : Request.ofText? text with
      | none => simp [hc, htext] at hs
      | some r =>
        simp only [hc, htext, Option.ite_none_right_eq_some, Option.some.injEq] at hs
        obtain ⟨hshares, rfl⟩ := hs
        have hopen : c.isOpen = true := by simpa [delivers, hc] using hi
        obtain ⟨uniqueId, he⟩ := receive_of_request hr.sound hc hopen now htext
        obtain ⟨hanswered, -⟩ := hr.answering hc now r uniqueId
        rw [Hub.step, he] at hno
        simp only [hc, htext]
        exact hanswered.siteAddsUp_followUp hshares hno
  | handler now w =>
    cases w with
    | answer station r => cases hs
    | followUp station r =>
      obtain ⟨hshares, he⟩ := Option.ite_none_right_eq_some.1 hs
      obtain rfl := Option.some.inj he
      exact hr.siteAddsUp_followUp hshares hno
    | balance station =>
      obtain rfl := Option.some.inj hs
      exact hr.siteAddsUp_balance hno
  | _ => cases hs

end Running

theorem outbox_step_of_rewires (hs : h.plant.switchboard.Sound) {i : HubStep}
    (hwires : i.rewires = true) (id : Nat) :
    (h.step i).plant.switchboard.outbox id = h.plant.switchboard.outbox id ∨
      (h.step i).plant.switchboard.outbox id = [] := by
  cases i with
  | connect station => exact .inl (hs.outbox_connect station id)
  | disconnect id' =>
    left
    rw [Hub.step, setSwitchboard, Switchboard.outbox, Switchboard.connection?,
      h.plant.switchboard.connections_disconnect]
    rfl
  | hangUp id' =>
    have hout := h.plant.switchboard.outbox_hangUp id' id
    by_cases he : id = id'
    · exact .inr (hout.trans (if_pos he))
    · exact .inl (hout.trans (if_neg he))
  | closeAll => exact .inl rfl
  | flush => exact .inr (h.plant.switchboard.outbox_flush id)
  | _ => cases hwires

/-- What carries the profiles. -/
structure Dispensing (tiers : PowerTiers) (h : Hub) : Prop extends h.Running tiers where
  placed : h.plant.switchboard.Placed

namespace Dispensing

variable (hd : h.Dispensing tiers) {i : HubStep} (hi : h.attains i = true)
include hd hi

theorem sends (hwires : i.rewires = false) :
    h.plant.switchboard.Sends (h.step i).plant.switchboard (h.deliveries tiers i) :=
  hd.sends_step (Bool.and_eq_true_iff.1 hi).1 hwires fun hsome _ hs =>
    reaches_of_attains hi hsome hs

theorem step : (h.step i).Dispensing tiers := by
  refine ⟨(hd.toRunning.step (Bool.and_eq_true_iff.1 hi).1).1, ?_⟩
  cases hwires : i.rewires with
  | false => exact (hd.sends hi hwires).placed hd.placed
  | true =>
    cases i with
    | connect station => exact hd.placed.connect hd.sound station
    | disconnect id => exact hd.placed.disconnect id
    | hangUp id => exact hd.placed.hangUp id
    | closeAll => exact hd.placed.of_online (fun _ => rfl) fun _ _ hid => nomatch hid
    | flush => exact hd.placed.flush
    | _ => cases hwires

theorem profiles_step (station : String) (connector : UInt32) :
    h.profiles station connector i = Delivery.to station connector (h.deliveries tiers i) := by
  have hsound := sound_step hd.sound i
  cases hwires : i.rewires with
  | false =>
    have hreach : ∀ d ∈ h.deliveries tiers i, h.plant.switchboard.reaches d.1 = true := by
      intro d hmem
      cases hs : h.sharer? i with
      | none => simp [deliveries, hs] at hmem
      | some e =>
        rw [deliveries, hs] at hmem
        refine reaches_of_attains hi (by rw [hs]; rfl) ?_
        rw [← (hd.tracks_answered i).2.smart]
        exact Plant.smart_of_mem_deliveries (hd.keyed_answered i) hmem
    rw [profiles, (hd.sends hi hwires).profiles hsound hd.placed hreach]
    rfl
  | true =>
    have hnone : h.deliveries tiers i = [] := by
      cases i with
      | connect | disconnect | hangUp | closeAll | flush => rfl
      | _ => cases hwires
    rw [profiles, Switchboard.profiles_of_outbox hsound (outbox_step_of_rewires hd.sound hwires),
      hnone]
    rfl

end Dispensing

/-- What is known of a connector that has a limit: with the last of these profiles it was sent this
limit, for the transaction that it has if it is bound to it. -/
def Told (h : Hub) (station : String) (connector : UInt32) (sent : List ChargingProfile)
    (bound : Prop) : Prop :=
  ∀ c, h.plant.ledger.registry.connector? station connector = some c → c.limit ≠ 0 →
    ∃ transaction now, sent.getLast? = some (.granting transaction c.limit now) ∧
      (bound → c.isActive = true → transaction = c.transaction)

theorem Told.keep (hd : h.Dispensing tiers) {i : HubStep} {s : String} {n : UInt32}
    {sent : List ChargingProfile} {bound : Prop} (ht : h.Told s n sent bound) {c : Connector}
    (hc : (h.step i).plant.ledger.registry.connector? s n = some c)
    (hlimit : c.limit = (h.answered i).registry.limitAt s n) (hne : c.limit ≠ 0) :
    ∃ transaction now, sent.getLast? = some (.granting transaction c.limit now) ∧
      (bound ∧ h.retains s n i = true → c.isActive = true → transaction = c.transaction) := by
  rw [hd.limitAt_answered] at hlimit
  cases hc₀ : h.plant.ledger.registry.connector? s n with
  | none => simp [Registry.limitAt, hc₀, hne] at hlimit
  | some c₀ =>
    rw [Registry.limitAt_of_connector? hc₀] at hlimit
    obtain ⟨transaction, now, hsent, hbound⟩ := ht c₀ hc₀ (hlimit ▸ hne)
    refine ⟨transaction, now, hlimit ▸ hsent, ?_⟩
    rintro ⟨hb, hretains⟩ ha
    have hsame : c.transaction = c₀.transaction := by
      simpa [retains, hc₀, hc, hlimit ▸ hne, ha] using hretains
    rw [hsame]
    refine hbound hb ?_
    rwa [Connector.isActive, ← hsame]

theorem Told.step (hd : h.Dispensing tiers) {i : HubStep} (hi : h.attains i = true)
    (hno : (h.step i).overflowed = false) {s : String} {n : UInt32} (hn : n.toNat < 2 ^ 31)
    {sent : List ChargingProfile} {bound : Prop}
    (ht : h.Told s n sent bound) :
    (h.step i).Told s n (sent ++ h.profiles s n i) (bound ∧ h.retains s n i = true) := by
  intro c hc hne
  have hbooks := hc
  rw [(hd.sameBooks_step (Bool.and_eq_true_iff.1 hi).1).registry, books] at hbooks
  rw [hd.profiles_step hi, deliveries]
  cases hs : h.sharer? i with
  | none =>
    rw [hs] at hbooks
    rw [Option.elim_none, Delivery.to, List.filter_nil]
    simp only [List.map_nil, List.filter_nil, List.append_nil]
    exact ht.keep hd hc (Registry.limitAt_of_connector? hbooks).symm hne
  | some e =>
    rw [hs] at hbooks
    rw [Option.elim_some] at hbooks ⊢
    cases hl : (h.answered i).database.locationOf? e.2 with
    | none =>
      rw [Plant.shared_of_none hl] at hbooks
      rw [Plant.deliveries, hl, Option.elim_none, Delivery.to, List.filter_nil]
      simp only [List.map_nil, List.filter_nil, List.append_nil]
      exact ht.keep hd hc (Registry.limitAt_of_connector? hbooks).symm hne
    | some location =>
      have hk := hd.keyed_answered i
      rw [Plant.shared_of_some hl, connector?_assign_plan (hd.whole_answered i) hk] at hbooks
      obtain ⟨c₁, hc₁, he⟩ := Option.map_eq_some_iff.1 hbooks
      have hlimit : limitAfter tiers (h.answered i) location e.2 s n = c.limit := by rw [← he]
      have htx : c₁.transaction = c.transaction := by rw [← he]
      have hadds := hd.siteAddsUp_step (Bool.and_eq_true_iff.1 hi).1 hno hs
      rcases to_deliveries_cases hl hn hadds e.1 hk hc₁ with hlast | ⟨hnil, hold⟩
      · rw [hlimit, htx] at hlast
        exact ⟨c.transaction, e.1, by rw [List.getLast?_append, hlast]; rfl, fun _ _ => rfl⟩
      · rw [hlimit] at hold
        rw [hnil, List.append_nil]
        exact ht.keep hd hc (hold hne) hne

theorem Told.runSteps (hd : h.Dispensing tiers) {is : List HubStep}
    (his : h.Along (fun h i => h.attains i = true) is)
    (hno : h.Along (fun h i => (h.step i).overflowed = false) is) {s : String} {n : UInt32}
    (hn : n.toNat < 2 ^ 31) {sent : List ChargingProfile} {bound : Prop}
    (ht : h.Told s n sent bound) :
    (h.runSteps is).Told s n (sent ++ h.allProfiles s n is)
      (bound ∧ h.Along (fun h i => h.retains s n i = true) is) := by
  induction is generalizing h sent bound with
  | nil => simpa [runSteps, allProfiles, Along] using ht
  | cons i rest ih =>
    obtain ⟨hi, hrest⟩ := his
    obtain ⟨hfirst, hlater⟩ := hno
    have hlast := ih (hd.step hi) hrest hlater (ht.step hd hi hfirst hn)
    rw [List.append_assoc, and_assoc] at hlast
    exact hlast

theorem Dispensing.runSteps (hd : h.Dispensing tiers) {is : List HubStep}
    (his : h.Along (fun h i => h.attains i = true) is) : (h.runSteps is).Dispensing tiers :=
  his.preserve (Q := Hub.Dispensing tiers) (fun _ _ hd hi => hd.step hi) hd

end Hub

namespace HubStep

end HubStep

end CentralSystem
