import CentralSystem.Proofs.Service

namespace CentralSystem

namespace WatchList

variable (w : WatchList)

theorem drain_append (queue queue' : List WatchOrder) :
    w.drain (queue ++ queue') = (w.drain queue).drain queue' := List.foldl_append

theorem register_of_get?_eq_none {id : Int32} (h : w.get? id = none) (entry : Watched) :
    (w.register id entry).2 = w.insert id entry := by
  simp [register, Table.contains, h]

theorem get?_drain_register (ks : List Registry.Link) (id : Int32) :
    (w.drain (ks.map fun k => .register k.transaction ⟨k.chargePoint, k.connector⟩)).get? id =
      (w.get? id).or
        ((ks.find? (·.transaction == id)).map fun k => ⟨k.chargePoint, k.connector⟩) := by
  induction ks generalizing w with
  | nil => simp [drain]
  | cons k rest ih =>
    have hstep := ih (w.carryOut (.register k.transaction ⟨k.chargePoint, k.connector⟩))
    rw [List.map_cons, drain, List.foldl_cons, ← drain, hstep, List.find?_cons]
    by_cases hk : k.transaction = id
    · subst hk
      cases hw : w.get? k.transaction <;> simp [carryOut, register, Table.contains, hw]
    · have hget : (w.carryOut (.register k.transaction ⟨k.chargePoint, k.connector⟩)).get? id =
          w.get? id := by
        have hne : id ≠ k.transaction := fun he => hk he.symm
        rw [carryOut, register]
        split
        · rfl
        · rw [Table.get?_insert, if_neg hne]
      rw [hget, beq_false_of_ne hk]

end WatchList

namespace Registry

variable {r : Registry} {db : Database}

theorem mem_activeConnectors (h : r.Keyed) {k : Link} :
    k ∈ r.activeConnectors ↔ ∃ c, r.connector? k.chargePoint k.connector = some c ∧
      c.isActive = true ∧ c.transaction = k.transaction := by
  simp only [activeConnectors, links, List.mem_flatMap, List.mem_map, List.mem_filter]
  constructor
  · rintro ⟨⟨s, station⟩, hs, c, ⟨hc, ha⟩, rfl⟩
    obtain ⟨i, hi⟩ := Table.mem_values_iff.1 hc
    have hcon : r.connector? s i = some c := by
      rw [connector?, Table.mem_entries_iff.1 hs]
      exact hi
    obtain rfl := h.connector s i c hcon
    exact ⟨c, hcon, ha, rfl⟩
  · rintro ⟨c, hc, ha, htx⟩
    obtain ⟨station, hs, hi⟩ := Option.bind_eq_some_iff.1 hc
    refine ⟨⟨k.chargePoint, station⟩, Table.mem_entries_iff.2 hs, c,
      ⟨Table.mem_values_iff.2 ⟨_, hi⟩, ha⟩, ?_⟩
    rw [h.connector _ _ c hc, htx]

/-- What there is to watch: the transactions of the registry, each where it is. -/
def watched (r : Registry) : WatchList :=
  r.transactions.map fun t => ⟨t.chargePoint, t.connector⟩

theorem watched_register (cp : ChargePoint) : (r.register cp).watched = r.watched := by
  rw [watched, transactions_register, watched]

theorem watched_putTransaction (t : Transaction) :
    (r.putTransaction t).watched = r.watched.insert t.id ⟨t.chargePoint, t.connector⟩ :=
  Table.map_insert ..

theorem watched_removeTransaction (id : Int32) :
    (r.removeTransaction id).watched = r.watched.erase id := Table.map_erase ..

theorem get?_watched_eq_none {id : Int32} (h : r.transactions.get? id = none) :
    r.watched.get? id = none := by
  rw [watched, Table.get?_map, h]
  rfl

theorem drain_activeConnectors (hb : r.Backed db)
    (hl : r.Loads db (Stored db) fun s _ => Stored db s) :
    WatchList.drain ∅ (r.activeConnectors.map fun k =>
      .register k.transaction ⟨k.chargePoint, k.connector⟩) = r.watched := by
  have hk : r.Keyed := hl.keyed hb.keyed
  refine Table.ext_get? fun id => ?_
  rw [WatchList.get?_drain_register, watched, Table.get?_map, Table.get?_empty, Option.none_or]
  have hfind {k : Link} (hf : r.activeConnectors.find? (·.transaction == id) = some k) :
      ∃ t, r.transactions.get? id = some t ∧ t.chargePoint = k.chargePoint ∧
        t.connector = k.connector := by
    obtain ⟨c, hc, ha, htx⟩ := (mem_activeConnectors hk).1 (List.mem_of_find?_eq_some hf)
    obtain rfl : k.transaction = id := by simpa using List.find?_some hf
    rw [← htx]
    exact hb.linked _ _ c hc ha
  cases hf : r.activeConnectors.find? (·.transaction == id) with
  | some k =>
    obtain ⟨t, ht, hs, hi⟩ := hfind hf
    rw [ht, Option.map_some, Option.map_some, hs, hi]
  | none =>
    cases ht : r.transactions.get? id with
    | none => rfl
    | some t =>
      obtain ⟨-, -, s, i, c, hs, hc, ha, htx⟩ := (hl.transaction id t).1 ht
      have hmem := (mem_activeConnectors (k := ⟨s, i, c.transaction⟩) hk).2
        ⟨c, (hl.connector s i c).2 ⟨hs, hc⟩, ha, rfl⟩
      exact absurd htx (by simpa using List.find?_eq_none.1 hf _ hmem)

end Registry

namespace Ledger

/-- The list that is behind on the orders of a ledger will watch what there is to watch. -/
def Watches (w : WatchList) (l : Ledger) : Prop := w.drain l.queue = l.registry.watched

variable {settings : Settings} (hs : settings.watching = true) {w : WatchList} {l l' : Ledger}
include hs

theorem queue_order (l : Ledger) (o : WatchOrder) :
    (l.order settings o).queue = l.queue ++ [o] := by
  rw [order, if_pos hs]

theorem Watches.unregister (hw : Watches w l) {id : Int32} (hq : l'.queue = l.queue)
    (hr : l'.registry.watched = l.registry.watched.erase id) :
    Watches w (l'.order settings (.unregister id)) := by
  rw [Watches, queue_order hs, WatchList.drain_append, registry_order, hq, hw, hr]
  rfl

theorem Watches.register (hw : Watches w l) {id : Int32} {entry : Watched}
    (hq : l'.queue = l.queue) (hnone : l.registry.transactions.get? id = none)
    (hr : l'.registry.watched = l.registry.watched.insert id entry) :
    Watches w (l'.order settings (.register id entry)) := by
  rw [Watches, queue_order hs, WatchList.drain_append, registry_order, hq, hw, hr]
  exact WatchList.register_of_get?_eq_none _ (Registry.get?_watched_eq_none hnone) entry

end Ledger

open Registry Ledger

/-- Each change orders just what it changes about the transactions of the registry. -/
theorem Change.watches {settings : Settings} (hs : settings.watching = true) {sharing : Bool}
    {n : Nat} {l l' : Ledger} (hc : Change settings sharing n l l')
    (h : l.registry.Backed l.database) (hn : l.database.highestId + n ≤ 2 ^ 31 - 1)
    {w : WatchList} (hw : Watches w l) : Watches w l' := by
  have hnew {t : Transaction} (hlt : l.database.highestId < 2 ^ 31 - 1)
      (hid : t.id = l.registry.nextId) : l.registry.transactions.get? t.id = none := by
    cases ht : l.registry.transactions.get? t.id with
    | none => rfl
    | some t' =>
      have hdb := (h.transaction _ t' ht).1
      rw [hid, h.get?_nextId hlt] at hdb
      cases hdb
  cases hc with
  | publish => exact hw
  | tag => exact hw
  | samples => exact hw
  | enroll => exact hw.trans (watched_register _).symm
  | see => exact hw
  | amend => exact hw
  | report => exact hw
  | release => exact hw.unregister hs rfl (watched_removeTransaction _)
  | enter hid => exact hw.register hs rfl (hnew (by omega) hid) (watched_putTransaction _)
  | occupy hid => exact hw.register hs rfl (hnew (by omega) hid) (watched_putTransaction _)
  | @displace _ t c hid ho hcon hi ha =>
    -- The new transaction is put up first, but the order to give up the old one comes first.
    have hgone : Watches w ((l.forget c.transaction).order settings (.unregister c.transaction)) :=
      hw.unregister hs rfl (watched_removeTransaction _)
    have hne : t.id ≠ c.transaction :=
      hid ▸ (h.transaction_ne_nextId (by omega) hcon ha).symm
    refine hgone.register hs ?_ ?_ ?_
    · exact (queue_order hs _ _).trans (queue_order hs (l.forget c.transaction) _).symm
    · rw [registry_order, registry_forget, Registry.removeTransaction, Table.get?_erase,
        hnew (by omega) hid, ite_self]
    · rw [registry_publish, registry_order, registry_order, registry_forget, registry_forget,
        watched_removeTransaction, watched_removeTransaction]
      exact (congrArg (Table.erase · _) (watched_putTransaction t)).trans
        (Table.erase_insert_of_ne _ hne _)
  | close _ _ _ hid => exact hw.unregister hs rfl (hid ▸ watched_removeTransaction _)
  | closeLoose _ _ _ hid => exact hw.unregister hs rfl (hid ▸ watched_removeTransaction _)
  | @discard _ t hr hf =>
    have hnone : l.registry.transactions.get? t.id = none := by
      cases ht : l.registry.transactions.get? t.id with
      | none => rfl
      | some t' =>
        obtain ⟨hdb, ho⟩ := h.transaction _ t' ht
        rw [record?_of_backed h, hdb] at hr
        obtain rfl := Option.some.inj hr
        rw [hf] at ho
        cases ho
    refine hw.trans (Eq.trans ?_ (watched_removeTransaction _).symm)
    exact (Table.erase_of_get?_eq_none (get?_watched_eq_none hnone)).symm
  | limit => exact hw

theorem Changes.watches {settings : Settings} (hs : settings.watching = true) {sharing : Bool}
    {n : Nat} {l l' : Ledger} (hc : Changes settings sharing n l l')
    (h : l.registry.Backed l.database) (hn : l.database.highestId + n ≤ 2 ^ 31 - 1)
    {w : WatchList} (hw : Watches w l) : Watches w l' := by
  induction hc with
  | refl => exact hw
  | tail hchanges hstep ih =>
    obtain ⟨hmid, hhigh⟩ := hchanges.backed h (by omega)
    exact hstep.watches hs hmid (by omega) (ih h (by omega) hw)

section Unwatched

variable {settings : Settings} (hs : settings.watching = false) {sharing : Bool} {n : Nat}
  {l l' : Ledger}
include hs

theorem Change.queue (hc : Change settings sharing n l l') : l'.queue = l.queue := by
  have horder (l : Ledger) (o : WatchOrder) : (l.order settings o).queue = l.queue := by
    simp [order, hs]
  cases hc with
  | release | enter | occupy | close | closeLoose => exact horder ..
  | displace => exact (horder ..).trans (horder ..)
  | _ => rfl

theorem Changes.queue (hc : Changes settings sharing n l l') : l'.queue = l.queue := by
  induction hc with
  | refl => rfl
  | tail _ hstep ih => exact (hstep.queue hs).trans ih

end Unwatched

namespace Hub

/-- A hub whose watch list is up to date but for the orders that are queued. -/
structure Attentive (h : Hub) : Prop where
  sound : h.Sound
  watching : h.settings.watching = true
  watches : Ledger.Watches h.watch h.plant.ledger

theorem start_eq (settings : Settings) {storage : Storage} (seed : Nat) {l : Ledger}
    (hl : Ledger.load storage = .ok l) :
    start settings storage seed = .ok
      { settings
        plant := { ledger := l, switchboard := { seed } }
        watch := firstWatch settings l.registry } := by
  rw [start, hl]
  rfl

theorem start_ok {db : Database} (hk : db.Keyed) (settings : Settings) (seed : Nat) :
    ∃ h, start settings { database := db } seed = .ok h ∧ h.settings = settings ∧
      h.plant.ledger.storage = { database := db } ∧ h.plant.ledger.Keyed ∧
      h.plant.ledger.registry.Loads db (Registry.Stored db) fun s _ => Registry.Stored db s := by
  obtain ⟨l, hl, hstorage, hloads⟩ := Ledger.load_ok hk
  have hdb : l.database = db := congrArg Storage.database hstorage
  exact ⟨_, start_eq settings seed hl, rfl, hstorage, ⟨hloads.keyed hk, hdb ▸ hk⟩, hloads⟩

theorem watch_handlerStep (h : Hub) (now : Timestamp) (w : HandlerStep) :
    (h.handlerStep now w).2.watch = h.watch := by
  cases w with
  | answer station r => rfl
  | followUp station r =>
    rw [handlerStep, followUp]
    split
    · rfl
    · dsimp only
      split <;> rfl
  | balance station =>
    rw [handlerStep, balance]
    split
    · rfl
    · split <;> rfl

theorem settings_serviceStep (h : Hub) (s : ServiceStep) :
    (h.serviceStep s).2.settings = h.settings := by
  cases s with
  | handler now s => exact settings_handlerStep now s
  | restart =>
    rw [serviceStep, restart, reload]
    cases Ledger.load h.plant.ledger.storage <;> rfl
  | drain => rfl

theorem settings_runService (h : Hub) (ss : List ServiceStep) :
    (h.runService ss).2.settings = h.settings := by
  induction ss generalizing h with
  | nil => rfl
  | cons s rest ih => exact (ih _).trans (h.settings_serviceStep s)

theorem firstWatch_eq {settings : Settings} (hs : settings.watching = true) {r : Registry}
    {db : Database} (hb : r.Backed db)
    (hl : r.Loads db (Registry.Stored db) fun s _ => Registry.Stored db s) :
    firstWatch settings r = r.watched := by
  rw [firstWatch, if_pos hs]
  exact Registry.drain_activeConnectors hb hl

namespace Attentive

variable {h : Hub} (ha : h.Attentive)
include ha

theorem restart : h.restart.Attentive := by
  obtain ⟨r, hloads, hreload⟩ := reload_ok ha.sound.whole ha.sound.backed.keyed
  have hwatch : firstWatch h.settings r = r.watched :=
    firstWatch_eq ha.watching (hloads.backed ha.sound.backed.consistent) hloads
  refine ⟨ha.sound.restart.1, ?_, ?_⟩
  · rw [Hub.restart, hreload]
    exact ha.watching
  · rw [Hub.restart, hreload]
    exact hwatch

theorem serviceStep (s : ServiceStep)
    (hn : h.plant.ledger.database.highestId + opened (h.serviceStep s).1 ≤ 2 ^ 31 - 1) :
    (h.serviceStep s).2.Attentive := by
  cases s with
  | handler now s =>
    obtain ⟨hsound, -⟩ := ha.sound.serviceStep (.handler now s) hn
    have hc := changes_handlerStep now ha.sound.whole ha.sound.keyed s
    have hw : Ledger.Watches h.watch (h.handlerStep now s).2.plant.ledger :=
      hc.watches ha.watching ha.sound.backed hn ha.watches
    exact ⟨hsound, (congrArg Settings.watching (settings_handlerStep now s)).trans ha.watching,
      (watch_handlerStep h now s).symm ▸ hw⟩
  | restart => exact ha.restart
  | drain => exact ⟨⟨ha.sound.whole, ha.sound.backed⟩, ha.watching, ha.watches⟩

theorem runService (ss : List ServiceStep)
    (hn : h.plant.ledger.database.highestId + opened (h.runService ss).1 ≤ 2 ^ 31 - 1) :
    (h.runService ss).2.Attentive := by
  induction ss generalizing h with
  | nil => exact ha
  | cons s rest ih =>
    simp only [Hub.runService, opened_append] at hn ⊢
    obtain ⟨-, -, hhigh⟩ := ha.sound.serviceStep s (by omega)
    exact ih (ha.serviceStep s (by omega)) (by omega)

end Attentive

theorem start_of_consistent {db : Database} (hc : db.Consistent) (settings : Settings)
    (seed : Nat) :
    ∃ h, start settings { database := db } seed = .ok h ∧ h.settings = settings ∧
      h.plant.ledger.database = db ∧ h.Sound ∧ (settings.watching = true → h.Attentive) := by
  obtain ⟨l, hl, hstorage, hloads⟩ := Ledger.load_ok hc.keyed
  have hdb : l.database = db := congrArg Storage.database hstorage
  have hb : l.registry.Backed l.database := hdb ▸ hloads.backed hc
  have hwhole : l.storage.broken = [] := by rw [hstorage]
  have hq : l.queue = [] := Ledger.queue_load hl
  refine ⟨_, start_eq settings seed hl, rfl, hdb, ⟨hwhole, hb⟩, fun hs => ⟨⟨hwhole, hb⟩, hs, ?_⟩⟩
  rw [Ledger.Watches, hq]
  exact firstWatch_eq hs hb (hdb ▸ hloads)

theorem attentive_start {db : Database} (hc : db.Consistent) {settings : Settings}
    (hs : settings.watching = true) (seed : Nat) :
    ∃ h, start settings { database := db } seed = .ok h ∧ h.Attentive ∧
      h.plant.ledger.database = db := by
  obtain ⟨h, hstart, -, hdb, -, hattentive⟩ := start_of_consistent hc settings seed
  exact ⟨h, hstart, hattentive hs, hdb⟩

end Hub

/-- A hub that starts from a consistent database and watches has, whenever it has carried out the
orders for its watch list, one entry for each transaction of its registry and no other, at the
charge point and the connector of this transaction. Orders may have been carried out and the hub
restarted any number of times on the way. -/
theorem watch_runService {db : Database} (hc : db.Consistent) {settings : Settings}
    (hs : settings.watching = true) (seed : Nat) :
    ∃ h, Hub.start settings { database := db } seed = .ok h ∧
      ∀ ss, db.highestId + opened (h.runService ss).1 ≤ 2 ^ 31 - 1 →
        (h.runService ss).2.drain.watch =
          (h.runService ss).2.drain.plant.ledger.registry.transactions.map fun t =>
            ⟨t.chargePoint, t.connector⟩ := by
  obtain ⟨h, hstart, ha, hdb⟩ := Hub.attentive_start hc hs seed
  refine ⟨h, hstart, fun ss hn => ?_⟩
  rw [← hdb] at hn
  exact (ha.runService ss hn).watches

/-- The hub of the depot, which watches the transaction in the north. -/
def Hub.watchfulDepot : Hub where
  settings := { Hub.depot.settings with watching := true }
  plant := { ledger := .depot, switchboard := {} }
  watch := .ofList [(7, ⟨"north", 1⟩)]

theorem Hub.start_watchfulDepot :
    Hub.start Hub.watchfulDepot.settings { database := .depot } 0 = .ok .watchfulDepot := by
  have hwatch : firstWatch Hub.watchfulDepot.settings Ledger.depot.registry =
      Hub.watchfulDepot.watch := by
    decide +kernel
  rw [start_eq _ 0 Ledger.load_depot, hwatch]
  rfl

theorem watch_runService_depot :
    let service := Hub.watchfulDepot.runService ServiceStep.depot
    Database.depot.highestId + opened service.1 ≤ 2 ^ 31 - 1 ∧
      service.2.drain.watch = service.2.drain.plant.ledger.registry.transactions.map fun t =>
        ⟨t.chargePoint, t.connector⟩ := by
  obtain ⟨h, hstart, hwatch⟩ := watch_runService Database.consistent_depot
    (show Hub.watchfulDepot.settings.watching = true from rfl) 0
  obtain rfl := Except.ok.inj (Hub.start_watchfulDepot.symm.trans hstart)
  have hn : Database.depot.highestId +
      opened (Hub.watchfulDepot.runService ServiceStep.depot).1 = 8 := by
    decide +kernel
  exact ⟨by rw [hn]; decide, hwatch ServiceStep.depot (by rw [hn]; decide)⟩

end CentralSystem
