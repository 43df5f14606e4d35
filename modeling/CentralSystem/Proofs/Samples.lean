import CentralSystem.Proofs.Message.Call
import CentralSystem.Proofs.Message.Field
import CentralSystem.Proofs.Posting

namespace CentralSystem

theorem UnitOfMeasure.name_of_readsOption {j? : Option Json} {u? : Option UnitOfMeasure}
    (h : (Shape.choice UnitOfMeasure.enumeration).ReadsOption j? u?) :
    u?.map UnitOfMeasure.name =
      (j?.bind Json.word?).map fun w => if w = "Celcius" then "Celsius" else w := by
  obtain ⟨hw, rfl⟩ | ⟨w, u, hw, rfl, hread⟩ := Enumeration.word_of_readsOption h
  · rw [hw]
    rfl
  · rw [hw, Option.map_some, Option.map_some]
    rcases Enumeration.mem_of_ofName? hread with hmem | rfl
    · cases u <;> simp_all [UnitOfMeasure.enumeration, UnitOfMeasure.name]
    · cases u <;> rfl

namespace SampledValue

def fieldNames : List String :=
  ["value", "context", "format", "measurand", "phase", "location", "unit"]

def word? (j : Json) (name : String) : Option String := (j.field? fieldNames name).bind Json.word?

/-- A sampled value has the words that its payload has for it; only one word is spelled anew. -/
structure SpelledBy (v : SampledValue) (j : Json) : Prop where
  value : j.field? fieldNames "value" = some (.string v.value)
  context : v.context.map ReadingContext.name = word? j "context"
  measurand : v.measurand.map Measurand.name = word? j "measurand"
  unit : v.unit.map UnitOfMeasure.name =
    (word? j "unit").map fun w => if w = "Celcius" then "Celsius" else w

theorem spelledBy_of_decode {j : Json} {v : SampledValue} (h : shape.decode j = .ok v) :
    v.SpelledBy j := by
  obtain ⟨⟨text, htext, hv⟩, hc, -, hm, -, -, hu, -⟩ := Shape.reads_of_decode (by decide) h
  refine ⟨htext.trans ?_, Enumeration.name_of_readsOption (fun _ => rfl) hc,
    Enumeration.name_of_readsOption (fun _ => rfl) hm, UnitOfMeasure.name_of_readsOption hu⟩
  cases text with
  | string s => exact congrArg (some ∘ Json.string) (Except.ok.inj hv)
  | _ => cases hv

end SampledValue

structure MeterValue.SpelledBy (m : MeterValue) (j : Json) : Prop where
  timestamp : ∃ t, j.field? ["timestamp", "sampledValue"] "timestamp" = some t ∧
    readTimestamp t = .ok m.timestamp
  sampledValue : ∃ items, j.field? ["timestamp", "sampledValue"] "sampledValue" =
    some (.array items) ∧ List.Forall₂ SampledValue.SpelledBy m.sampledValue items

theorem MeterValue.spelledBy_of_decode {j : Json} {m : MeterValue} (h : shape.decode j = .ok m) :
    m.SpelledBy j := by
  obtain ⟨htime, ⟨values, hvalues, hlist⟩, -⟩ := Shape.reads_of_decode (by decide) h
  obtain ⟨items, rfl, hitems⟩ := Shape.forall₂_of_decode_list hlist
  exact ⟨htime, items, hvalues, hitems.flip.imp fun _ _ => SampledValue.spelledBy_of_decode⟩

structure Request.MeterValues.SpelledBy (r : Request.MeterValues) (j : Json) : Prop where
  connectorId : ∃ i, j.field? ["connectorId", "transactionId", "meterValue"] "connectorId" =
    some i ∧ readUInt32 i = .ok r.connectorId
  transactionId : Shape.int32.ReadsOption
    (j.field? ["connectorId", "transactionId", "meterValue"] "transactionId") r.transactionId
  meterValue : ∃ items, j.field? ["connectorId", "transactionId", "meterValue"] "meterValue" =
    some (.array items) ∧ List.Forall₂ MeterValue.SpelledBy r.meterValue items

theorem Request.MeterValues.spelledBy_of_decode {j : Json} {r : Request.MeterValues}
    (h : schema.decode j = .ok r) : r.SpelledBy j := by
  obtain ⟨hconnector, htransaction, ⟨values, hvalues, hlist⟩, -⟩ :=
    Shape.reads_of_decode (by decide) (Schema.decode_eq_ok_iff.1 h).1
  obtain ⟨items, rfl, hitems⟩ := Shape.forall₂_of_decode_list hlist
  exact ⟨hconnector, htransaction, items, hvalues,
    hitems.flip.imp fun _ _ => MeterValue.spelledBy_of_decode⟩

namespace Ledger

structure SampleOf (station : String) (r : Request.MeterValues) (m : MeterValue) (v : SampledValue)
    (x : MeterSample) : Prop where
  chargePoint : x.chargePoint = station
  connector : x.connector = r.connectorId
  transaction : x.transaction = r.transactionId
  timestamp : x.timestamp = m.timestamp
  value : x.value = v.value
  measurand : x.measurand =
    (v.measurand.map Measurand.name).getD "Energy.Active.Import.Register"
  unit : x.unit = v.unit.map UnitOfMeasure.name
  context : x.context = v.context.map ReadingContext.name

def SamplesOf (station : String) (r : Request.MeterValues) (xs : List MeterSample) : Prop :=
  ∃ parts : List (List MeterSample), xs = parts.flatten ∧
    List.Forall₂ (fun m part => List.Forall₂ (SampleOf station r m) m.sampledValue part)
      r.meterValue parts

theorem samplesOf_samples (station : String) (r : Request.MeterValues) :
    SamplesOf station r (samples station r) := by
  refine ⟨_, List.flatMap_def, List.forall₂_map_right_iff.2 (List.forall₂_same.2 fun m _ => ?_)⟩
  refine List.forall₂_map_right_iff.2 (List.forall₂_same.2 fun v _ => ?_)
  refine ⟨rfl, rfl, rfl, rfl, rfl, ?_, rfl, rfl⟩
  cases v.measurand <;> rfl

end Ledger

namespace Entry

/-- The sample that an entry records. -/
def sample? : Entry → Option MeterSample
  | sample x => some x
  | _ => none

theorem changeAll_samples (es : List Entry) (s : String) (x : Option (List MeterSample)) :
    (changeAll es (.samples s) x).getD [] =
      x.getD [] ++ (es.filterMap sample?).filter (·.chargePoint = s) := by
  induction es generalizing x with
  | nil => simp [changeAll]
  | cons e rest ih =>
    rw [changeAll_cons, ih]
    cases e with
    | sample y =>
      rw [change_eq_ite (q := s = y.chargePoint) (by simp [places]), List.filterMap_cons, sample?]
      by_cases hs : y.chargePoint = s
      · simp [hs, write]
      · simp [hs, Ne.symm hs]
    | _ =>
      rw [change_of_not_mem (by simp [places])]
      rfl

end Entry

namespace Ledger

variable {settings : Settings} {l : Ledger} {now : Timestamp} {station : String}

theorem sample?_outcome (r : Request) :
    ((l.glance settings station r).outcome settings now station r).2.filterMap Entry.sample? =
      match r with
      | .meterValues r => samples station r
      | _ => [] := by
  cases r with
  | meterValues r =>
    simp only [Glance.outcome, List.filterMap_map]
    exact List.filterMap_some
  | bootNotification r =>
    refine List.filterMap_eq_nil_iff.2 fun e he => ?_
    rcases Glance.mem_boot he with rfl | ⟨_, rfl | rfl⟩ <;> rfl
  | authorize r =>
    refine List.filterMap_eq_nil_iff.2 fun e he => ?_
    obtain rfl := Glance.mem_authorize he
    rfl
  | startTransaction r =>
    refine List.filterMap_eq_nil_iff.2 fun e he => ?_
    rcases Glance.mem_start he with he | ⟨_, _, rfl⟩ | ⟨_, rfl⟩ | ⟨_, rfl⟩
    · obtain rfl := Glance.mem_provision he
      rfl
    all_goals rfl
  | stopTransaction r =>
    refine List.filterMap_eq_nil_iff.2 fun e he => ?_
    rcases Glance.mem_stop he with ⟨_, _, rfl⟩ | ⟨_, rfl⟩ | ⟨_, rfl⟩ <;> rfl
  | statusNotification r =>
    refine List.filterMap_eq_nil_iff.2 fun e he => ?_
    rcases Glance.mem_reportStatus he with ⟨_, rfl⟩ | ⟨_, _, rfl⟩ | ⟨_, rfl⟩ <;> rfl
  | _ => simp [Glance.outcome, Entry.sample?]

theorem chargePoint_of_mem_samples {r : Request.MeterValues} {x : MeterSample}
    (hx : x ∈ samples station r) : x.chargePoint = station := by
  obtain ⟨m, -, hx⟩ := List.mem_flatMap.1 hx
  obtain ⟨v, -, rfl⟩ := List.mem_map.1 hx
  rfl

theorem filter_samples (station s : String) (r : Request.MeterValues) :
    (samples station r).filter (·.chargePoint = s) =
      if station = s then samples s r else [] := by
  split
  · next hs =>
    subst hs
    exact List.filter_eq_self.2 fun x hx => decide_eq_true (chargePoint_of_mem_samples hx)
  · next hs =>
    refine List.filter_eq_nil_iff.2 fun x hx => ?_
    rw [chargePoint_of_mem_samples hx]
    simpa using hs

end Ledger

/-- The meter values that a charge point asks to be recorded. -/
def HandlerStep.metered? (s : String) : HandlerStep → Option Request.MeterValues
  | .answer station (.meterValues r) => if station = s then some r else none
  | _ => none

def HandlerStep.metered (s : String) (ws : List (Timestamp × HandlerStep)) :
    List Request.MeterValues :=
  ws.filterMap fun w => w.2.metered? s

namespace Hub

variable {h : Hub}

section Whole

variable (hw : h.plant.ledger.storage.broken = []) (hk : h.plant.ledger.Keyed)
include hw hk

theorem samplesOf_handlerStep (now : Timestamp) (w : HandlerStep) (s : String) :
    (h.handlerStep now w).2.plant.ledger.database.samplesOf s =
      h.plant.ledger.database.samplesOf s ++ (w.metered? s).elim [] (Ledger.samples s) := by
  have hcontent := congrArg (·.getD []) (content_handlerStep (p := .samples s) hw rfl hk now w)
  refine hcontent.trans ((Entry.changeAll_samples ..).trans (congrArg _ ?_))
  cases w with
  | answer station r =>
    rw [posts, Ledger.sample?_outcome]
    cases r with
    | meterValues r =>
      rw [Ledger.filter_samples, HandlerStep.metered?]
      split <;> rfl
    | _ => rfl
  | _ => rfl

theorem samplesOf_runHandlers (ws : List (Timestamp × HandlerStep)) (s : String) :
    (h.runHandlers ws).2.plant.ledger.database.samplesOf s =
      h.plant.ledger.database.samplesOf s ++ (HandlerStep.metered s ws).flatMap (Ledger.samples s) := by
  induction ws generalizing h with
  | nil => exact (List.append_nil _).symm
  | cons w rest ih =>
    obtain ⟨hw', hk'⟩ := whole_handlerStep w.1 hw hk w.2
    have hrest := ih hw' hk'
    rw [samplesOf_handlerStep hw hk, List.append_assoc] at hrest
    refine hrest.trans (congrArg _ ?_)
    have hcons : HandlerStep.metered s (w :: rest) =
        (w.2.metered? s).toList ++ HandlerStep.metered s rest := by
      rw [HandlerStep.metered, List.filterMap_cons]
      cases w.2.metered? s <;> rfl
    rw [hcons, List.flatMap_append]
    cases w.2.metered? s <;> simp

end Whole

end Hub

/-- Nothing but the samples of the charge point changes by a request that tells meter values, and
nothing more is done behind it. -/
structure Hub.OnlySamples (h h' : Hub) (station : String) : Prop where
  hub : h' = { h with plant := { h.plant with ledger := h'.plant.ledger } }
  ledger : h'.plant.ledger.quiet = h.plant.ledger.quiet.setDatabase
    { h.plant.ledger.database with samples := h'.plant.ledger.database.samples }
  others : ∀ s ≠ station, h'.plant.ledger.database.samples.get? s =
    h.plant.ledger.database.samples.get? s

theorem Ledger.database_meterValues {l : Ledger} (hw : l.storage.broken = []) (station : String)
    (r : Request.MeterValues) : (l.meterValues station r).2.database =
      (samples station r).foldl Database.addSample l.database := by
  have hdatabase := congrArg Ledger.database (quiet_meterValues station hw r)
  refine hdatabase.trans ?_
  split
  · next h => rw [List.isEmpty_iff.1 h]; rfl
  · rfl

theorem Hub.onlySamples_meterValues {h : Hub} (hw : h.plant.ledger.storage.broken = [])
    (hk : h.plant.ledger.Keyed) (now : Timestamp) (station : String) (r : Request.MeterValues) :
    h.OnlySamples (h.handlerStep now (.answer station (.meterValues r))).2 station := by
  refine ⟨rfl, ?_, fun s hs => ?_⟩
  · show (h.plant.ledger.meterValues station r).2.quiet = h.plant.ledger.quiet.setDatabase
      { h.plant.ledger.database with
        samples := (h.plant.ledger.meterValues station r).2.database.samples }
    obtain ⟨t, ht⟩ := Database.foldl_addSample (Ledger.samples station r) h.plant.ledger.database
    rw [Ledger.database_meterValues hw, Ledger.quiet_meterValues station hw, ht]
    split
    · next he =>
      rw [← ht, List.isEmpty_iff.1 he]
      rfl
    · rfl
  · refine (content_handlerStep (p := .samples s) hw rfl hk now _).trans ?_
    refine Entry.changeAll_of_not_mem (fun e he => ?_) _
    obtain ⟨x, hx, rfl⟩ := List.mem_map.1 he
    have hstation : x.chargePoint = station := Ledger.chargePoint_of_mem_samples hx
    simpa [Entry.places, hstation] using hs

/-- The samples of a charge point are at the end of every run those of the start and, behind them,
those of its requests: of each sampled value one, with the words that the payload has for it. What
else there is stays as it was by such a request. -/
theorem samples_runHandlers {db : Database} (hk : db.Keyed) (settings : Settings) (seed : Nat) :
    (∀ j r, Request.MeterValues.schema.decode j = .ok r → r.SpelledBy j) ∧
    ∃ h, Hub.start settings { database := db } seed = .ok h ∧ ∀ ws,
      (∀ s, ∃ blocks : List (List MeterSample),
        (h.runHandlers ws).2.plant.ledger.database.samplesOf s = db.samplesOf s ++ blocks.flatten ∧
        List.Forall₂ (Ledger.SamplesOf s) (HandlerStep.metered s ws) blocks) ∧
      ∀ now later s r, let h₁ := (h.runHandlers ws).2
        let h₂ := (h₁.handlerStep now (.answer s (.meterValues r))).2
        h₁.OnlySamples h₂ s ∧ (h₂.handlerStep later (.followUp s (.meterValues r))).2 = h₂ := by
  refine ⟨fun j r => Request.MeterValues.spelledBy_of_decode, ?_⟩
  obtain ⟨h, hstart, rfl, hstorage, hkl, -⟩ := Hub.start_ok hk settings seed
  have hw : h.plant.ledger.storage.broken = [] := by rw [hstorage]
  refine ⟨h, hstart, fun ws => ?_⟩
  obtain ⟨hw₁, hk₁⟩ := Hub.whole_runHandlers hw hkl ws
  refine ⟨fun s => ⟨(HandlerStep.metered s ws).map (Ledger.samples s), ?_, ?_⟩,
    fun now later s r => ?_⟩
  · rw [Hub.samplesOf_runHandlers hw hkl, Ledger.database, hstorage, List.flatMap_def]
  · exact List.forall₂_map_right_iff.2
      (List.forall₂_same.2 fun r _ => Ledger.samplesOf_samples s r)
  · intro h₁ h₂
    refine ⟨Hub.onlySamples_meterValues hw₁ hk₁ now s r, ?_⟩
    show h₂.followUp later s (.meterValues r) = h₂
    unfold Hub.followUp
    cases h₂.settings.tiers <;> rfl

def Request.MeterValues.thermometer : Request.MeterValues where
  connectorId := 1
  transactionId := some 7
  meterValue :=
    [{ timestamp := .epoch
       sampledValue :=
        [{ value := "21.5", context := none, format := none, measurand := some .temperature
           phase := none, location := none, unit := some .celsius },
         { value := "7", context := none, format := none, measurand := none, phase := none
           location := none, unit := none }] }]

def Json.thermometer : Json := .object
  [("connectorId", .ofNat 1), ("meterValue", .array [.object
    [("sampledValue", .array
      [.object [("measurand", .string "Temperature"), ("unit", .string "Celcius"),
        ("value", .string "21.5")], .array [.string "7", .null, .null, .null, .null, .null, .null]]),
      ("timestamp", .string "1970-01-01T00:00:00Z")]]), ("transactionId", .ofNat 7)]

theorem samples_runHandlers_depot :
    Request.MeterValues.schema.decode .thermometer = .ok .thermometer ∧
      Request.MeterValues.SpelledBy .thermometer .thermometer ∧ Database.depot.Keyed ∧
      ∃ h, Hub.start Hub.depot.settings { database := .depot } 0 = .ok h ∧
        let h₁ := (h.runHandlers [(.epoch, .answer "north" (.meterValues .thermometer))]).2
        ∃ x y, h₁.plant.ledger.database.samplesOf "north" = [x, y] ∧
          x.unit = some "Celsius" ∧ y.measurand = "Energy.Active.Import.Register" := by
  obtain ⟨hspelled, h, hstart, hrun⟩ :=
    samples_runHandlers Database.keyed_depot Hub.depot.settings 0
  have hdecode : Request.MeterValues.schema.decode .thermometer = .ok .thermometer := by
    with_unfolding_all rfl
  refine ⟨hdecode, hspelled _ _ hdecode, Database.keyed_depot, h, hstart, ?_⟩
  obtain ⟨blocks, hsamples, hblocks⟩ :=
    (hrun [(.epoch, .answer "north" (.meterValues .thermometer))]).1 "north"
  obtain _ | ⟨⟨parts, rfl, hparts⟩, ⟨⟩⟩ := hblocks
  obtain _ | ⟨hpart, ⟨⟩⟩ := hparts
  obtain _ | ⟨hx, _ | ⟨hy, ⟨⟩⟩⟩ := hpart
  exact ⟨_, _, hsamples, hx.unit, hy.measurand⟩

end CentralSystem
