import CentralSystem.Proofs.Mirror
import CentralSystem.Proofs.Reading

namespace CentralSystem

/-- What transaction data has for a context: its last reading with the time, and where there is none
the reading and the time that stand in for it. -/
inductive MeterValue.Settles (context : ReadingContext) (data : List MeterValue)
    (standIn : Int32 × Timestamp) : Int32 × Timestamp → Prop
  | told {time s x} (h : LastTells context data time s x) :
      Settles context data standIn (s.inWattHours x, time)
  | untold (h : ∀ e ∈ values data, ∀ x, ¬e.2.Tells context x) :
      Settles context data standIn standIn

namespace Ledger

section Unlink

variable {l : Ledger} {t : Transaction}

theorem unlink_cases (l : Ledger) (t : Transaction) :
    (∃ c, l.registry.connector? t.chargePoint t.connector = some c ∧ c.transaction = t.id ∧
      l.unlink t = l.putConnector t.chargePoint { c with transaction := noTransaction }) ∨
    (∀ c, l.registry.connector? t.chargePoint t.connector = some c → c.transaction ≠ t.id) ∧
      l.unlink t = l := by
  unfold unlink
  cases hc : l.registry.connector? t.chargePoint t.connector with
  | none => exact .inr ⟨(fun _ h => nomatch h), rfl⟩
  | some c =>
    by_cases htx : c.transaction = t.id
    · exact .inl ⟨c, rfl, htx, if_pos htx⟩
    · refine .inr ⟨?_, if_neg htx⟩
      rintro c' ⟨⟩
      exact htx

theorem frame_unlink (l : Ledger) (t : Transaction) :
    (l.unlink t).registry.transactions = l.registry.transactions ∧
      (l.unlink t).registry.nextId = l.registry.nextId ∧
      (∀ s, (l.unlink t).registry.chargePoint? s = l.registry.chargePoint? s) ∧
      (l.unlink t).database =
        { l.database with connectors := (l.unlink t).database.connectors } := by
  rcases unlink_cases l t with ⟨c, -, -, he⟩ | ⟨-, he⟩
  · rw [he]
    exact ⟨rfl, rfl, Registry.chargePoint?_setConnector _ _, rfl⟩
  · rw [he]
    exact ⟨rfl, rfl, fun _ => rfl, rfl⟩

variable (hm : l.Mirrored)
include hm

end Unlink

section Stop

variable (settings : Settings) (now : Timestamp) (station : String) {l : Ledger} {t : Transaction}

section Found

variable (hw : l.storage.broken = [])
  (hkey : ∀ id t, l.record? id = some t → t.id = id) {r : Request.StopTransaction}
  (hr : l.record? r.transactionId = some t) (ho : t.isFinished = false)
include hw hkey hr ho

theorem registry_stop : (l.answer settings now station (.stopTransaction r)).2.registry =
    (l.quiet.unlink (closed t r)).registry.removeTransaction t.id := by
  rw [answer, ← registry_quiet, quiet_stop now station hw hkey, hr]
  dsimp only
  rw [if_neg (by simp [ho]), quiet_close now station hw, registry_order, registry_publish,
    registry_settle, (closed_eq ho r).1]

theorem database_stop : (l.answer settings now station (.stopTransaction r)).2.database =
    (l.quiet.unlink (closed t r)).database.updateTransaction (closed t r) := by
  rw [answer, database, ← storage_quiet, quiet_stop now station hw hkey, hr]
  dsimp only
  rw [if_neg (by simp [ho]), quiet_close now station hw, storage_order, storage_publish,
    storage_settle]

end Found

variable (hw : l.storage.broken = []) (hlinked : l.registry.Linked) (hm : l.Mirrored)
  (hk : l.database.Keyed)
include hw hlinked hm hk

end Stop

end Ledger

def SampledValue.energy (context : ReadingContext) (value : String) : SampledValue where
  value := value
  context := some context
  format := none
  measurand := none
  phase := none
  location := none
  unit := some .kiloWattHour

def Request.StopTransaction.depot (values : List String) : Request.StopTransaction where
  idTag := none
  meterStop := 9
  timestamp := .epoch
  transactionId := 7
  reason := some .remote
  transactionData := some [⟨.epoch, values.map (.energy .transactionEnd)⟩]

theorem Ledger.record?_depot : ∃ t, Ledger.depot.record? 7 = some t ∧ t.isFinished = false ∧
    t.id = 7 ∧ t.chargePoint = "north" ∧ t.connector = 1 := by
  obtain ⟨t, ht⟩ : ∃ t, Ledger.depot.record? 7 = some t :=
    Option.isSome_iff_exists.1 (by decide +kernel)
  have hdepot : (Ledger.depot.record? 7).all (fun t =>
      t.isFinished = false ∧ t.id = 7 ∧ t.chargePoint = "north" ∧ t.connector = 1) = true := by
    decide +kernel
  exact ⟨t, ht, by simpa [ht] using hdepot⟩

/-- The stop with only some of the values of its transaction data. -/
def Request.StopTransaction.keep (P : SampledValue → Bool) (r : Request.StopTransaction) :
    Request.StopTransaction :=
  { r with transactionData := r.transactionData.map (·.map (MeterValue.keep P)) }

namespace Ledger

section Words

variable {P : SampledValue → Bool} {r : Request.StopTransaction}

theorem stop_congr {q : Request.StopTransaction} (hid : q.transactionId = r.transactionId)
    (h : ∀ t, closed t q = closed t r) (settings : Settings) (now : Timestamp) (station : String)
    (l : Ledger) : l.stop settings now station q = l.stop settings now station r := by
  simp only [stop, close, hid, h]

variable (h : ∀ context, context = .transactionBegin ∨ context = .transactionEnd → ∀ time s x,
  MeterValue.LastTells context (r.transactionData.getD []) time s x → P s = true)
include h

theorem closed_keep (t : Transaction) : closed t (r.keep P) = closed t r := by
  have hdata : (r.keep P).transactionData.getD [] =
      (r.transactionData.getD []).map (MeterValue.keep P) := by
    unfold Request.StopTransaction.keep
    cases r.transactionData <;> rfl
  have hlast {context : ReadingContext}
      (hc : context = .transactionBegin ∨ context = .transactionEnd) :
      MeterValue.lastReading? context ((r.keep P).transactionData.getD []) =
        MeterValue.lastReading? context (r.transactionData.getD []) := by
    rw [hdata]
    exact MeterValue.lastReading?_map_keep (h context hc)
  simp only [closed, hlast (.inl rfl), hlast (.inr rfl)]
  rfl

theorem answer_keep (settings : Settings) (now : Timestamp) (station : String) (l : Ledger) :
    l.answer settings now station (.stopTransaction (r.keep P)) =
      l.answer settings now station (.stopTransaction r) :=
  stop_congr (r := r) (q := r.keep P) rfl (closed_keep h) settings now station l

end Words

section LastReading

variable {t : Transaction} (ho : t.isFinished = false) {r : Request.StopTransaction}
  {time : Timestamp} {s : SampledValue} {x : Reading}
include ho

theorem start_closed
    (h : MeterValue.LastTells .transactionBegin (r.transactionData.getD []) time s x) :
    (closed t r).timeStart = time ∧ (closed t r).meterStart = s.inWattHours x := by
  have hbegun := MeterValue.lastReading?_eq_some_iff.2 ⟨time, s, x, h, rfl⟩
  simp [closed, Transaction.finish, ho, hbegun]

theorem stop_closed
    (h : MeterValue.LastTells .transactionEnd (r.transactionData.getD []) time s x) :
    (closed t r).timeStop = some time ∧ (closed t r).meterStop = s.inWattHours x := by
  have hended := MeterValue.lastReading?_eq_some_iff.2 ⟨time, s, x, h, rfl⟩
  simp [closed, Transaction.finish, ho, hended]

end LastReading

/-- Values that spell neither a number nor a word are passed over. Words are not: a stop is the same
without them where the last values that count are numbers, but a word that is the last such value is
recorded as the greatest number, the least one or 0. -/
theorem closed_of_words {t : Transaction} (ho : t.isFinished = false)
    (r : Request.StopTransaction) :
    (∀ settings now station (l : Ledger),
      l.answer settings now station (.stopTransaction (r.keep SampledValue.isReadable)) =
        l.answer settings now station (.stopTransaction r)) ∧
    ((∀ context, context = .transactionBegin ∨ context = .transactionEnd → ∀ time s x,
        MeterValue.LastTells context (r.transactionData.getD []) time s x → x.isFinite = true) →
      ∀ settings now station (l : Ledger),
        l.answer settings now station (.stopTransaction (r.keep SampledValue.isNumber)) =
          l.answer settings now station (.stopTransaction r)) ∧
    (∀ time s x, MeterValue.LastTells .transactionBegin (r.transactionData.getD []) time s x →
      (closed t r).timeStart = time ∧
      (∀ negative, x = .infinite negative →
        (closed t r).meterStart = if negative then Int32.minValue else Int32.maxValue) ∧
      (x = .notANumber → (closed t r).meterStart = 0)) ∧
    ∀ time s x, MeterValue.LastTells .transactionEnd (r.transactionData.getD []) time s x →
      (closed t r).timeStop = some time ∧
      (∀ negative, x = .infinite negative →
        (closed t r).meterStop = if negative then Int32.minValue else Int32.maxValue) ∧
      (x = .notANumber → (closed t r).meterStop = 0) := by
  refine ⟨?_, fun hfinite => ?_, fun time s x hlast => ?_, fun time s x hlast => ?_⟩
  · refine answer_keep fun context _ time s x hlast => ?_
    obtain ⟨-, ht, -⟩ := hlast
    exact SampledValue.isReadable_iff.2 ⟨x, ht.spells⟩
  · refine answer_keep fun context hc time s x hlast => ?_
    have hx := hfinite context hc time s x hlast
    obtain ⟨-, ht, -⟩ := hlast
    rw [SampledValue.isNumber, Reading.parse?_eq_some_iff.2 ht.spells]
    exact hx
  · obtain ⟨htime, hmeter⟩ := start_closed ho hlast
    refine ⟨htime, ?_, ?_⟩
    · rintro negative rfl
      exact hmeter.trans (s.inWattHours_infinite negative)
    · rintro rfl
      exact hmeter.trans s.inWattHours_notANumber
  · obtain ⟨htime, hmeter⟩ := stop_closed ho hlast
    refine ⟨htime, ?_, ?_⟩
    · rintro negative rfl
      exact hmeter.trans (s.inWattHours_infinite negative)
    · rintro rfl
      exact hmeter.trans s.inWattHours_notANumber

theorem closed_of_words_depot :
    ∃ t, Ledger.depot.record? 7 = some t ∧ t.isFinished = false ∧
      (closed t (.depot ["5.5", "-Infinity"])).meterStop = Int32.minValue := by
  obtain ⟨t, ht, ho, -⟩ := record?_depot
  obtain ⟨-, -, -, hended⟩ := closed_of_words ho (.depot ["5.5", "-Infinity"])
  have hlast : MeterValue.LastTells .transactionEnd
      [⟨.epoch, [.energy .transactionEnd "5.5", .energy .transactionEnd "-Infinity"]⟩] .epoch
      (.energy .transactionEnd "-Infinity") (.infinite true) := by
    have hvalues : MeterValue.values
        [⟨.epoch, [.energy .transactionEnd "5.5", .energy .transactionEnd "-Infinity"]⟩] =
        [(.epoch, .energy .transactionEnd "5.5")] ++
          (.epoch, .energy .transactionEnd "-Infinity") :: [] := rfl
    have hspells : Reading.Spells "-Infinity".toList (.infinite true) :=
      Reading.parse?_eq_some_iff.1 (by decide +kernel)
    exact .intro hvalues ⟨rfl, .inl rfl, hspells⟩ (List.forall_mem_nil _)
  exact ⟨t, ht, ho, (hended _ _ _ hlast).2.1 true rfl⟩

/-- The depot records the greatest number as the energy of a stop that says infinity, where it would
record the number of the request if the word were passed over. -/
theorem infinity_is_recorded :
    let recorded (r : Request.StopTransaction) :=
      ((Ledger.depot.answer Hub.depot.settings .epoch "north" (.stopTransaction r)).2.database
        |>.transactions.get? 7).map (·.meterStop)
    recorded (.depot ["inf"]) = some 2147483647 ∧
      recorded ((Request.StopTransaction.depot ["inf"]).keep SampledValue.isNumber) = some 9 := by
  decide +kernel

end Ledger

end CentralSystem
