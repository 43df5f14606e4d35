import CentralSystem.Proofs.Independence

namespace CentralSystem

theorem Response.opened_untimed (r : Response) : r.untimed.opened = r.opened := by
  cases r <;> rfl

/-- Two hubs that came out of one with the same work done, whatever the clock read. -/
structure Hub.SameWork (h h₁ h₂ : Hub) : Prop where
  records : h₁.plant.ledger.SameRecords h₂.plant.ledger
  /-- The same Calls were queued on each connection, in the same order. -/
  queued : ∀ id, ∃ texts texts',
    h₁.plant.switchboard.outbox id = h.plant.switchboard.outbox id ++ texts ∧
    h₂.plant.switchboard.outbox id = h.plant.switchboard.outbox id ++ texts' ∧
    List.Forall₂ SameCall texts texts'
  watch : h₁.drain.watch = h₂.drain.watch

namespace Ledger

theorem near_of_mem_errands {settings : Settings} {now later : Timestamp} {l : Ledger}
    (hw : l.storage.broken = []) (hb : l.registry.Backed l.database) {station : String}
    {r : Request} {e : Errand} (he : e ∈ (l.effect settings now later station r).errands) :
    l.database.Near station e.1 := by
  obtain ⟨hk, -, hsites⟩ := tracks_outcome hw (keyed_of_backed hb) hb.chargePoint settings now
    station r
  exact (to_of_mem_errands hk he).imp_right (hsites.sharesSite_iff station e.1).1

end Ledger

namespace Hub

theorem watch_process (h : Hub) (now later : Timestamp) (station : String) (r : Request) :
    (h.process now later station r).2.watch = h.watch :=
  (watch_handlerStep _ later (.followUp station r)).trans
    (watch_handlerStep h now (.answer station r))

variable {h : Hub}

namespace Sound

variable (hs : h.Sound) {station other : String} {r r' : Request}

section Step

variable {now later : Timestamp}
  (hn : h.plant.ledger.database.highestId + (h.process now later station r).1.opened ≤ 2 ^ 31 - 1)
include hs

theorem sites_process (now later : Timestamp) (station : String) (r : Request) :
    h.plant.ledger.database.SameSites (h.process now later station r).2.plant.ledger.database :=
  ((changes_process hs.whole hs.backed now later station r).tracks
    hs.keyed hs.backed.chargePoint).2

include hn

theorem process : (h.process now later station r).2.Sound ∧
    (h.process now later station r).2.plant.ledger.database.highestId =
      h.plant.ledger.database.highestId + (h.process now later station r).1.opened := by
  have hc := changes_process hs.whole hs.backed now later station r
  obtain ⟨hb, hhigh⟩ := hc.backed hs.backed hn
  exact ⟨⟨hc.broken.trans hs.whole, hb⟩, hhigh⟩

theorem reached_process {e : Entry} (hown : h.plant.ledger.StopsOwn station r)
    (he : e ∈ (h.plant.ledger.effect h.settings now later station r).entries) {p : Place}
    (hp : p ∈ e.places) : p.Reached h.settings h.plant.ledger.database station r :=
  Ledger.reached_of_mem_entries hs.backed hs.whole hown
    (highestId_lt_of_opened hs.whole hs.keyed hn) he hp

theorem effect_process (hi : h.plant.ledger.Independent station r other r')
    (now₁ later₁ now₂ later₂ : Timestamp) :
    (h.plant.ledger.effect h.settings now₁ later₁ other r').Same
      ((h.process now later station r).2.plant.ledger.effect h.settings now₂ later₂ other r') := by
  obtain ⟨-, hbooks, -⟩ := process_eq hs.whole hs.keyed now later station r
  obtain ⟨hafter, -⟩ := hs.process hn
  exact Ledger.effect_after hs.backed hi hs.whole
    (fun e he p hp => hs.reached_process hn hi.stops he hp) hbooks hafter.backed
    (hs.sites_process now later station r) ..

theorem watches_process (hw : h.settings.watching = true)
    (hwatches : Ledger.Watches h.watch h.plant.ledger) :
    Ledger.Watches h.watch (h.process now later station r).2.plant.ledger :=
  (changes_process hs.whole hs.backed now later station r).watches hw hs.backed hn hwatches

end Step

section Both

variable {first second first' second' : Response × Hub}
  {now₁ later₁ now₂ later₂ now₃ later₃ now₄ later₄ : Timestamp}
  (hfirst : h.process now₁ later₁ station r = first)
  (hsecond : first.2.process now₂ later₂ other r' = second)
include hs hfirst hsecond

theorem process_both (hi : h.plant.ledger.Independent station r other r')
    (hn : h.plant.ledger.database.highestId + first.1.opened ≤ 2 ^ 31 - 1) (now later : Timestamp) :
    ∃ e : Effect, (h.plant.ledger.effect h.settings now later other r').Same e ∧
      second.1 = e.response ∧
      second.2.plant.ledger.books = (h.plant.ledger.postAll
        ((h.plant.ledger.effect h.settings now₁ later₁ station r).entries ++ e.entries)).books ∧
      second.2.plant.switchboard = (h.plant.switchboard.giveAll
        (h.plant.ledger.effect h.settings now₁ later₁ station r).errands).giveAll e.errands := by
  subst hfirst hsecond
  obtain ⟨-, hbooks, hsent⟩ := process_eq hs.whole hs.keyed now₁ later₁ station r
  obtain ⟨hmid, -⟩ := hs.process hn
  obtain ⟨hresponse, hbooks', hsent'⟩ :=
    process_eq hmid.whole hmid.keyed now₂ later₂ other r'
  rw [settings_process] at hresponse hbooks' hsent'
  refine ⟨_, hs.effect_process hn hi .., hresponse, Ledger.books_trans hbooks hbooks', ?_⟩
  rw [hsent', hsent]

theorem locations_both
    (hn : h.plant.ledger.database.highestId + first.1.opened ≤ 2 ^ 31 - 1) :
    second.2.plant.ledger.database.locations = h.plant.ledger.database.locations := by
  subst hfirst hsecond
  obtain ⟨hmid, -⟩ := hs.process hn
  exact (hmid.sites_process ..).locations.trans (hs.sites_process ..).locations

/-- The list that is behind on the orders for it has the same to watch, or there are no orders. -/
theorem watch_both
    (hwatch : h.settings.watching = true → Ledger.Watches h.watch h.plant.ledger)
    (hn : h.plant.ledger.database.highestId + first.1.opened + second.1.opened ≤ 2 ^ 31 - 1) :
    second.2.drain.watch =
      if h.settings.watching then second.2.plant.ledger.registry.watched else h.drain.watch := by
  subst hfirst hsecond
  have hn₁ : h.plant.ledger.database.highestId + (h.process now₁ later₁ station r).1.opened ≤
      2 ^ 31 - 1 := by omega
  obtain ⟨hmid, hhigh⟩ := hs.process hn₁
  have hsame : ((h.process now₁ later₁ station r).2.process now₂ later₂ other r').2.watch =
      h.watch := (watch_process ..).trans (watch_process ..)
  have hsettings := settings_process h now₁ later₁ station r
  have hmidwatch := watch_process h now₁ later₁ station r
  show WatchList.drain _ _ = _
  rw [hsame]
  cases hw : h.settings.watching with
  | true =>
    have hfirst := hs.watches_process hn₁ hw (hwatch hw)
    rw [← hmidwatch] at hfirst ⊢
    exact hmid.watches_process (by omega) (hsettings ▸ hw) hfirst
  | false =>
    have hc := changes_process hs.whole hs.backed now₁ later₁ station r
    have hc' := changes_process hmid.whole hmid.backed now₂ later₂ other r'
    rw [hsettings] at hc'
    exact congrArg (WatchList.drain h.watch) ((hc'.queue hw).trans (hc.queue hw))

theorem process_comm (hfirst' : h.process now₃ later₃ other r' = first')
    (hsecond' : first'.2.process now₄ later₄ station r = second')
    (hi : h.plant.ledger.Independent station r other r')
    (hboard : h.plant.switchboard.Sound) (hplaced : h.plant.switchboard.Placed)
    (hwatch : h.settings.watching = true → Ledger.Watches h.watch h.plant.ledger)
    (hn : h.plant.ledger.database.highestId + first.1.opened + second.1.opened ≤ 2 ^ 31 - 1) :
    first.1.untimed = second'.1.untimed ∧ second.1.untimed = first'.1.untimed ∧
      h.SameWork second.2 second'.2 := by
  have hn₁ : h.plant.ledger.database.highestId + first.1.opened ≤ 2 ^ 31 - 1 := by omega
  obtain ⟨hresponse₁, -⟩ := process_eq hs.whole hs.keyed now₁ later₁ station r
  obtain ⟨hresponse₃, -⟩ := process_eq hs.whole hs.keyed now₃ later₃ other r'
  rw [hfirst] at hresponse₁
  rw [hfirst'] at hresponse₃
  obtain ⟨e₂, hsame₂, hresponse₂, hbooks, hsent⟩ :=
    hs.process_both hfirst hsecond hi hn₁ now₃ later₃
  have hr₂ : second.1.untimed = first'.1.untimed := by
    rw [hresponse₂, hresponse₃, hsame₂.response]
  have hopened : first'.1.opened = second.1.opened := by
    rw [← Response.opened_untimed, ← hr₂, Response.opened_untimed]
  have hn₃ : h.plant.ledger.database.highestId + first'.1.opened ≤ 2 ^ 31 - 1 := by omega
  obtain ⟨e₁, hsame₁, hresponse₄, hbooks', hsent'⟩ :=
    hs.process_both hfirst' hsecond' hi.symm hn₃ now₁ later₁
  have hr₁ : first.1.untimed = second'.1.untimed := by
    rw [hresponse₁, hresponse₄, hsame₁.response]
  have hopened' : second'.1.opened = first.1.opened := by
    rw [← Response.opened_untimed, ← hr₁, Response.opened_untimed]
  have hrecords : second.2.plant.ledger.SameRecords second'.2.plant.ledger := by
    refine .of_view (fun p => ?_) ?_
    · rw [Ledger.view_of_books hbooks, Ledger.view_of_books hbooks']
      exact Ledger.view_postAll_comm hs.backed hi
        (fun e he p hp => hs.reached_process (hfirst ▸ hn₁) hi.stops he hp)
        (fun e he p hp => hs.reached_process (hfirst' ▸ hn₃) hi.stops' he hp)
        hsame₁.entries hsame₂.entries p
    · exact (hs.locations_both hfirst hsecond hn₁).trans
        (hs.locations_both hfirst' hsecond' hn₃).symm
  refine ⟨hr₁, hr₂, hrecords, fun id => ?_, ?_⟩
  · rw [hsent, hsent']
    refine Switchboard.giveAll_comm hboard hplaced hsame₁.errands hsame₂.errands ?_ id
    intro e he e' he' heq
    have hnear := Ledger.near_of_mem_errands hs.whole hs.backed he
    have hnear' := Ledger.near_of_mem_errands hs.whole hs.backed he'
    exact hi.parted.not_near hs.keyed.2 hnear (heq ▸ hnear')
  · rw [hs.watch_both hfirst hsecond hwatch hn,
      hs.watch_both hfirst' hsecond' hwatch (by rw [hopened, hopened']; omega)]
    split
    · rw [Registry.watched, Registry.watched, hrecords.transactions]
    · rfl

end Both

end Sound

end Hub

/-- Wherever a start from a consistent database and the service since have brought a hub, and
whatever has happened at its switchboard: two requests that do not meet get the same responses and
leave the same behind, whichever of them comes first with its follow-up. The clock may read as it
likes. -/
theorem process_comm_runService {db : Database} (hc : db.Consistent) (settings : Settings)
    (seed : Nat) :
    ∃ h₀, Hub.start settings { database := db } seed = .ok h₀ ∧
      ∀ ss ms station r other r' now₁ later₁ now₂ later₂ now₃ later₃ now₄ later₄,
        let h := (h₀.runService ss).2.setSwitchboard (({ seed } : Switchboard).runSteps ms)
        let first := h.process now₁ later₁ station r
        let second := first.2.process now₂ later₂ other r'
        let first' := h.process now₃ later₃ other r'
        let second' := first'.2.process now₄ later₄ station r
        h.plant.ledger.Independent station r other r' →
          db.highestId + opened (h₀.runService ss).1 + first.1.opened + second.1.opened ≤
              2 ^ 31 - 1 →
          first.1.untimed = second'.1.untimed ∧ second.1.untimed = first'.1.untimed ∧
            h.SameWork second.2 second'.2 := by
  obtain ⟨h₀, hstart, hsettings, hdb, hs₀, ha₀⟩ := Hub.start_of_consistent hc settings seed
  refine ⟨h₀, hstart, ?_⟩
  intro ss ms station r other r' now₁ later₁ now₂ later₂ now₃ later₃ now₄ later₄ h first second
    first' second' hi hn
  have hn₀ : h₀.plant.ledger.database.highestId + opened (h₀.runService ss).1 ≤ 2 ^ 31 - 1 := by
    rw [hdb]
    omega
  obtain ⟨hs, -, hhigh⟩ := hs₀.runService ss hn₀
  rw [hdb] at hhigh
  have hboard := Switchboard.follows_runSteps seed ms
  have hsound : h.Sound := ⟨hs.whole, hs.backed⟩
  refine hsound.process_comm rfl rfl rfl rfl hi hboard.sound hboard.placed (fun hw => ?_) ?_
  · have hwatching : settings.watching = true := by
      rw [← hsettings, ← h₀.settings_runService ss]
      exact hw
    exact ((ha₀ hwatching).runService ss hn₀).watches
  · show (h₀.runService ss).2.plant.ledger.database.highestId + _ + _ ≤ _
    rw [hhigh]
    exact hn

def Request.startSouth : Request :=
  .startTransaction
    { connectorId := 1, idTag := "tag", meterStart := 0, reservationId := none,
      timestamp := .epoch }

def Request.boot : Request :=
  .bootNotification
    { chargeBoxSerialNumber := none, chargePointModel := "model", chargePointSerialNumber := none,
      chargePointVendor := "vendor", firmwareVersion := none, iccid := none, imsi := none,
      meterSerialNumber := none, meterType := none }

theorem Database.parted_depot {db : Database} (hl : db.locations = depot.locations)
    (hn : db.named? "east" = none) : db.Parted "south" "east" := by
  have hdepot {s id : String} (hb : db.Belongs s id) :
      id = "depot" ∧ (s = "north" ∨ db.named? s = some id) := by
    obtain ⟨location, hloc, hb⟩ := hb
    rw [hl] at hloc
    simp only [depot, putConnector, putTransaction, putChargePoint, Table.ofList, List.foldl_cons,
      List.foldl_nil, Table.get?_insert, Table.get?_empty] at hloc
    split at hloc
    · next hid =>
      obtain rfl := Option.some.inj hloc
      exact ⟨hid, hb.imp_left List.mem_singleton.1⟩
    · cases hloc
  refine ⟨by decide, fun id _ hb => ?_, fun s id id' hb hb' => ?_⟩
  · rcases (hdepot hb).2 with he | he
    · exact absurd he (by decide)
    · rw [hn] at he
      cases he
  · exact (hdepot hb).1.trans (hdepot hb').1.symm

def ServiceStep.sharing : List ServiceStep := [.handler .epoch (.balance "north"), .drain]

def Hub.sharedDepot : Hub :=
  (Hub.watchfulDepot.runService ServiceStep.sharing).2.setSwitchboard
    (({ seed := 0 } : Switchboard).runSteps [.connect "north", .connect "south"])

theorem process_comm_runService_depot :
    Hub.sharedDepot.plant.ledger.Independent "south" .startSouth "east" .boot ∧
      Database.depot.highestId + opened (Hub.watchfulDepot.runService ServiceStep.sharing).1 +
        (Hub.sharedDepot.process .epoch .epoch "south" .startSouth).1.opened +
        ((Hub.sharedDepot.process .epoch .epoch "south" .startSouth).2.process .epoch .epoch "east"
          .boot).1.opened ≤ 2 ^ 31 - 1 ∧
      Hub.sharedDepot.SameWork
        ((Hub.sharedDepot.process .epoch .epoch "south" .startSouth).2.process .epoch .epoch "east"
          .boot).2
        ((Hub.sharedDepot.process .epoch .epoch "east" .boot).2.process .epoch .epoch "south"
          .startSouth).2 := by
  obtain ⟨h₀, hstart, hcomm⟩ :=
    process_comm_runService Database.consistent_depot Hub.watchfulDepot.settings 0
  obtain rfl := Except.ok.inj (Hub.start_watchfulDepot.symm.trans hstart)
  have hi : Hub.sharedDepot.plant.ledger.Independent "south" .startSouth "east" .boot :=
    ⟨Database.parted_depot (by decide +kernel) (by decide +kernel),
      fun q hq => by simp [Request.startSouth] at hq, fun q hq => by simp [Request.boot] at hq, rfl⟩
  have hn : Database.depot.highestId + opened (Hub.watchfulDepot.runService ServiceStep.sharing).1 +
      (Hub.sharedDepot.process .epoch .epoch "south" .startSouth).1.opened +
      ((Hub.sharedDepot.process .epoch .epoch "south" .startSouth).2.process .epoch .epoch "east"
        .boot).1.opened ≤ 2 ^ 31 - 1 := by
    decide +kernel
  obtain ⟨-, -, hsame⟩ := hcomm ServiceStep.sharing [.connect "north", .connect "south"] "south"
    .startSouth "east" .boot .epoch .epoch .epoch .epoch .epoch .epoch .epoch .epoch hi hn
  exact ⟨hi, hn, hsame⟩

end CentralSystem
