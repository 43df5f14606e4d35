import CentralSystem.Proofs.Commands
import CentralSystem.Proofs.Profile

namespace CentralSystem

namespace Switchboard

section Digits

theorem digitChar_mod_injective {n m : Nat} (h : Nat.digitChar (n % 16) = Nat.digitChar (m % 16)) :
    n % 16 = m % 16 := by
  have hdigit : ∀ a b : Fin 16, Nat.digitChar a = Nat.digitChar b → a = b := by decide
  exact congrArg Fin.val (hdigit ⟨n % 16, Nat.mod_lt _ (by decide)⟩
    ⟨m % 16, Nat.mod_lt _ (by decide)⟩ h)

@[simp] theorem length_hexDigits (width n : Nat) : (hexDigits width n).length = width := by
  induction width generalizing n with
  | zero => rfl
  | succ width ih => simp [hexDigits, ih]

theorem hexDigits_injective {width n m : Nat} (hn : n < 16 ^ width) (hm : m < 16 ^ width)
    (h : hexDigits width n = hexDigits width m) : n = m := by
  induction width generalizing n m with
  | zero => omega
  | succ width ih =>
    rw [Nat.pow_succ] at hn hm
    obtain ⟨hinit, hlast⟩ := List.append_inj' h rfl
    have hdiv : n / 16 = m / 16 := ih (by omega) (by omega) hinit
    have hmod := digitChar_mod_injective (List.head_eq_of_cons_eq hlast)
    omega

theorem toDigits_injective {n m : Nat} (h : Nat.toDigits 16 n = Nat.toDigits 16 m) : n = m := by
  have hbase : 1 < 16 := by decide
  have hlong {k : Nat} (hk : ¬ k < 16) : ¬ (Nat.toDigits 16 k).length ≤ 1 := by
    rw [Nat.length_toDigits_le_iff hbase (by decide)]
    exact hk
  induction n using Nat.strongRecOn generalizing m with
  | ind n ih =>
    by_cases hn : n < 16
    · by_cases hm : m < 16
      · rw [Nat.toDigits_of_lt_base hn, Nat.toDigits_of_lt_base hm] at h
        have hmod := digitChar_mod_injective (n := n) (m := m)
          (by rw [Nat.mod_eq_of_lt hn, Nat.mod_eq_of_lt hm]; exact List.head_eq_of_cons_eq h)
        omega
      · rw [Nat.toDigits_of_lt_base hn] at h
        exact absurd (h ▸ Nat.le_refl 1) (hlong hm)
    · by_cases hm : m < 16
      · rw [Nat.toDigits_of_lt_base hm] at h
        exact absurd (h ▸ Nat.le_refl 1) (hlong hn)
      · rw [Nat.toDigits_of_base_le hbase (Nat.le_of_not_lt hn),
          Nat.toDigits_of_base_le hbase (Nat.le_of_not_lt hm)] at h
        obtain ⟨hinit, hlast⟩ := List.append_inj' h rfl
        have hdiv : n / 16 = m / 16 := ih (n / 16) (by omega) hinit
        have hmod := digitChar_mod_injective (List.head_eq_of_cons_eq hlast)
        omega

theorem uniqueId_injective {seed n m : Nat} (h : uniqueId seed n = uniqueId seed m) : n = m := by
  have hwide {k : Nat} (hk : ¬ k < 16 ^ 12) : ¬ (Nat.toDigits 16 k).length ≤ 12 := by
    rw [Nat.length_toDigits_le_iff (by decide) (by decide)]
    exact hk
  have hlist := congrArg String.toList h
  simp only [uniqueId, String.toList_append, String.toList_ofList] at hlist
  have hhex := List.append_cancel_left hlist
  split at hhex
  · next hn =>
    split at hhex
    · next hm => exact hexDigits_injective hn hm hhex
    · next hm => exact absurd (by rw [← hhex, length_hexDigits]) (hwide hm)
  · next hn =>
    split at hhex
    · exact absurd (by rw [hhex, length_hexDigits]) (hwide hn)
    · exact toDigits_injective hhex

end Digits

end Switchboard

/-- A step of a switchboard: a session begins or ends, a command is sent or answered, or what is
queued leaves it. -/
inductive SwitchboardStep where
  | connect (station : String)
  | disconnect (connection : Nat)
  | closeAll
  | request (station : String) (command : Command)
  /-- The charge point answers a Call. -/
  | settle (station uniqueId : String)
  | hangUp (connection : Nat)
  | flush
deriving DecidableEq

theorem concat_eq_append_cons {α : Type} {l before since : List α} {a b : α} :
    l ++ [a] = before ++ b :: since ↔
      (l = before ∧ a = b ∧ since = []) ∨
        ∃ since', since = since' ++ [a] ∧ l = before ++ b :: since' := by
  constructor
  · intro he
    rcases List.eq_nil_or_concat since with rfl | ⟨since', a', rfl⟩
    · obtain ⟨hl, ha⟩ := List.append_inj' he rfl
      exact .inl ⟨hl, List.head_eq_of_cons_eq ha, rfl⟩
    · rw [List.concat_eq_append, ← List.cons_append, ← List.append_assoc] at he
      obtain ⟨hl, ha⟩ := List.append_inj' he rfl
      exact .inr ⟨since', by rw [List.head_eq_of_cons_eq ha, List.concat_eq_append], hl⟩
  · rintro (⟨rfl, rfl, rfl⟩ | ⟨since', rfl, rfl⟩)
    · rfl
    · rw [List.append_assoc, List.cons_append]

namespace SwitchboardStep

def opened (ms : List SwitchboardStep) : Nat := ms.countP fun m => m matches connect _

def Lasts (ends : SwitchboardStep → Prop) (ms : List SwitchboardStep) (station : String)
    (id : Nat) : Prop :=
  ∃ before since, ms = before ++ connect station :: since ∧ id = opened before + 1 ∧
    ∀ m ∈ since, ¬ ends m

def Supersedes (station : String) (id : Nat) (m : SwitchboardStep) : Prop :=
  m = connect station ∨ m = disconnect id ∨ m = closeAll

/-- The connection that was opened last for a charge point, if it was not closed since. -/
def Current (ms : List SwitchboardStep) (station : String) (id : Nat) : Prop :=
  Lasts (Supersedes station id) ms station id

/-- A connection of a charge point whose receiving side is not gone. -/
def Listening (ms : List SwitchboardStep) (station : String) (id : Nat) : Prop :=
  Lasts (· = hangUp id) ms station id

variable {ms : List SwitchboardStep} {m : SwitchboardStep} {station : String} {id : Nat}

theorem opened_concat_connect : opened (ms ++ [connect station]) = opened ms + 1 := by
  simp [opened, List.countP_append]

theorem opened_concat (hm : ∀ station, m ≠ connect station) : opened (ms ++ [m]) = opened ms := by
  cases m with
  | connect station => exact absurd rfl (hm station)
  | _ => simp [opened, List.countP_append]

theorem lasts_concat {ends : SwitchboardStep → Prop} : Lasts ends (ms ++ [m]) station id ↔
    (m = connect station ∧ id = opened ms + 1) ∨ (Lasts ends ms station id ∧ ¬ ends m) := by
  constructor
  · rintro ⟨before, since, he, hid, hsince⟩
    rcases concat_eq_append_cons.1 he with ⟨rfl, rfl, -⟩ | ⟨since, rfl, rfl⟩
    · exact .inl ⟨rfl, hid⟩
    · exact .inr ⟨⟨before, since, rfl, hid, fun n hn => hsince n (by simp [hn])⟩,
        hsince m (by simp)⟩
  · rintro (⟨rfl, hid⟩ | ⟨⟨before, since, rfl, hid, hsince⟩, hm⟩)
    · exact ⟨ms, [], rfl, hid, fun _ h => (nomatch h)⟩
    · refine ⟨before, since ++ [m], by simp, hid, fun n hn => ?_⟩
      rcases List.mem_append.1 hn with hn | hn
      · exact hsince n hn
      · exact List.mem_singleton.1 hn ▸ hm

theorem current_concat_connect {station' : String} :
    Current (ms ++ [connect station']) station id ↔
      if station = station' then id = opened ms + 1 else Current ms station id := by
  rw [Current, lasts_concat]
  by_cases he : station = station'
  · subst he
    simp [Supersedes]
  · simp [Supersedes, he, Ne.symm he, Current]

theorem current_concat_disconnect {id' : Nat} :
    Current (ms ++ [disconnect id']) station id ↔ Current ms station id ∧ id ≠ id' := by
  rw [Current, lasts_concat]
  simp [Supersedes, Current, eq_comm]

theorem not_current_concat_closeAll : ¬ Current (ms ++ [closeAll]) station id := by
  rw [Current, lasts_concat]
  simp [Supersedes]

theorem current_concat (hm : ¬ m.Supersedes station id) (hc : m ≠ connect station) :
    Current (ms ++ [m]) station id ↔ Current ms station id := by
  rw [Current, lasts_concat]
  simp [hm, hc, Current]

theorem listening_concat_connect {station' : String} :
    Listening (ms ++ [connect station']) station id ↔
      (station = station' ∧ id = opened ms + 1) ∨ Listening ms station id := by
  rw [Listening, lasts_concat]
  simp [Listening, eq_comm]

theorem listening_concat (hm : ∀ station, m ≠ connect station) :
    Listening (ms ++ [m]) station id ↔ Listening ms station id ∧ m ≠ hangUp id := by
  rw [Listening, lasts_concat]
  simp [hm station, Listening]

end SwitchboardStep

namespace Switchboard

variable {s s' : Switchboard} {ms : List SwitchboardStep}

def step (s : Switchboard) : SwitchboardStep → Switchboard
  | .connect station => (s.connect station).2
  | .disconnect id => (s.disconnect id).2
  | .closeAll => s.closeAll
  | .request station command => s.give (station, command)
  | .settle station uniqueId => (s.takePending station uniqueId).2
  | .hangUp id => s.hangUp id
  | .flush => s.flush

def runSteps (s : Switchboard) (ms : List SwitchboardStep) : Switchboard := ms.foldl step s

/-- The connection over which a charge point is reached. -/
def session? (s : Switchboard) (station : String) : Option Connection :=
  (s.online.get? station).bind s.connection?

/-- The switchboard once a command is sent over a connection. -/
def sent (s : Switchboard) (c : Connection) (station : String) (command : Command) : Switchboard :=
  let id := uniqueId s.seed (s.issued + 1)
  { s with
    connections := s.connections.insert c.id (c.queue [command.encode id])
    pending := s.pending.insert ⟨station, id⟩ command.action
    issued := s.issued + 1 }

/-- Sends a command in three steps: its Call is put on the list of those that await an answer, the
text is queued, and the Call is taken off the list again if that failed. -/
def attempt (s : Switchboard) (station : String) (command : Command) :
    Except Error String × Switchboard :=
  match s.session? station with
  | none => (.error (.notConnected station), s)
  | some c =>
    let id := uniqueId s.seed (s.issued + 1)
    let noted := { s with pending := s.pending.insert ⟨station, id⟩ command.action }
    match noted.send c (command.encode id) with
    | .ok sent => (.ok id, { sent with issued := s.issued + 1 })
    | .error e => (.error e, { noted with pending := noted.pending.erase ⟨station, id⟩ })

/-- The Calls that await an answer have unique ids that were given out. -/
def Numbered (s : Switchboard) : Prop :=
  ∀ k a, s.pending.get? k = some a → ∃ n ≤ s.issued, k.uniqueId = uniqueId s.seed n

theorem Numbered.get?_next (hn : s.Numbered) (station : String) :
    s.pending.get? ⟨station, uniqueId s.seed (s.issued + 1)⟩ = none := by
  by_contra hsome
  obtain ⟨a, ha⟩ := Option.ne_none_iff_exists'.1 hsome
  obtain ⟨n, hle, hid⟩ := hn _ a ha
  have hnext : s.issued + 1 = n := uniqueId_injective hid
  omega

section Request

variable {station : String} {c : Connection} (command : Command)

theorem request_of_none (hc : s.session? station = none) :
    s.request station command = .error (.notConnected station) ∧
      s.attempt station command = (.error (.notConnected station), s) := by
  rw [request, attempt, ← session?, hc]
  exact ⟨rfl, rfl⟩

variable (hs : s.Sound) (hc : s.session? station = some c)
include hs hc

theorem connection?_of_session? : s.connection? c.id = some c := by
  obtain ⟨id, -, hid⟩ := Option.bind_eq_some_iff.1 hc
  rw [hs.id hid]
  exact hid

theorem request_of_open (ho : c.isOpen = true) :
    s.request station command =
        .ok (uniqueId s.seed (s.issued + 1), s.sent c station command) ∧
      s.attempt station command =
        (.ok (uniqueId s.seed (s.issued + 1)), s.sent c station command) := by
  have hconnection := connection?_of_session? hs hc
  rw [connection?] at hconnection
  rw [request, attempt, ← session?, hc]
  simp only [send, connection?, hconnection, if_pos ho]
  exact ⟨rfl, rfl⟩

theorem request_of_closed (hn : s.Numbered) (ho : c.isOpen = false) :
    s.request station command = .error (.notConnected c.station) ∧
      s.attempt station command = (.error (.notConnected c.station), s) := by
  have hconnection := connection?_of_session? hs hc
  rw [connection?] at hconnection
  have hpending (a : Action) : (s.pending.insert ⟨station, uniqueId s.seed (s.issued + 1)⟩ a).erase
      ⟨station, uniqueId s.seed (s.issued + 1)⟩ = s.pending := by
    rw [Table.erase_insert, Table.erase_of_get?_eq_none (hn.get?_next station)]
  rw [request, attempt, ← session?, hc]
  simp only [send, connection?, hconnection, ho, hpending]
  exact ⟨rfl, rfl⟩

theorem connection?_sent (id : Nat) : (s.sent c station command).connection? id =
    (s.connection? id).map (·.queue
      (if id = c.id then [command.encode (uniqueId s.seed (s.issued + 1))] else [])) := by
  have hget : (s.sent c station command).connection? id =
      if id = c.id then some (c.queue [command.encode (uniqueId s.seed (s.issued + 1))])
      else s.connection? id := Table.get?_insert ..
  rw [hget]
  by_cases he : id = c.id
  · rw [if_pos he, he, connection?_of_session? hs hc]
    simp
  · rw [if_neg he]
    cases s.connection? id <;> simp [he, Connection.queue]

theorem outbox_sent (id : Nat) : (s.sent c station command).outbox id =
    s.outbox id ++
      if id = c.id then [command.encode (uniqueId s.seed (s.issued + 1))] else [] := by
  rw [outbox_of_connection (connection?_sent command hs hc id), outbox]
  cases hid : s.connection? id with
  | some d => rfl
  | none =>
    have hne : id ≠ c.id := by
      rintro rfl
      rw [connection?_of_session? hs hc] at hid
      cases hid
    rw [if_neg hne]
    rfl

end Request

theorem Numbered.sent (hn : s.Numbered) (c : Connection) (station : String) (command : Command) :
    (s.sent c station command).Numbered := by
  intro k a hk
  have hget := hk.symm.trans (Table.get?_insert s.pending _ k command.action)
  split at hget
  · next he => exact ⟨s.issued + 1, Nat.le_refl _, congrArg CallKey.uniqueId he⟩
  · obtain ⟨n, hle, hid⟩ := hn k a hget.symm
    exact ⟨n, Nat.le_succ_of_le hle, hid⟩

theorem disconnect_cases (hs : s.Sound) (hp : s.Placed) (id : Nat) :
    (∃ c, s.connection? id = some c ∧ s.online.get? c.station = some id ∧
      s.disconnect id = (true, { s with
        online := s.online.erase c.station
        pending := s.pending.filter (·.station != c.station) })) ∨
    ((∀ station, s.online.get? station ≠ some id) ∧ s.disconnect id = (false, s)) := by
  rw [disconnect]
  cases hc : s.connection? id with
  | none =>
    refine .inr ⟨fun station hid => ?_, rfl⟩
    have hplaced := hp station id hid
    rw [hc] at hplaced
    cases hplaced
  | some c =>
    obtain rfl : c.id = id := hs.id hc
    by_cases hcurrent : s.online.get? c.station = some c.id
    · exact .inl ⟨c, rfl, hcurrent, if_pos (by simp [isCurrent, hcurrent])⟩
    · refine .inr ⟨fun station hid => ?_, if_neg (by simpa [isCurrent] using hcurrent)⟩
      have hplaced := hp station c.id hid
      rw [hc] at hplaced
      obtain rfl := Option.some.inj hplaced
      exact hcurrent hid

/-- What a switchboard has come to is what its history tells. -/
structure Follows (s : Switchboard) (ms : List SwitchboardStep) : Prop where
  sound : s.Sound
  placed : s.Placed
  numbered : s.Numbered
  nextConnection : s.nextConnection = SwitchboardStep.opened ms + 1
  online : ∀ station id, s.online.get? station = some id ↔ SwitchboardStep.Current ms station id
  listening : ∀ id c, s.connection? id = some c →
    (c.isOpen = true ↔ SwitchboardStep.Listening ms c.station id)

namespace Follows

variable (h : s.Follows ms)
include h

theorem calm {m : SwitchboardStep} {f : Nat → Connection → Connection}
    (hc : ∀ id, s'.connection? id = (s.connection? id).map (f id))
    (hid : ∀ id c, (f id c).id = c.id) (hface : ∀ id c, (f id c).face = c.face)
    (ho : s'.online = s.online) (hnext : s'.nextConnection = s.nextConnection) (hn : s'.Numbered)
    (hm : ∀ station id, ¬ m.Supersedes station id) (hh : ∀ id, m ≠ .hangUp id) :
    s'.Follows (ms ++ [m]) := by
  have hopens (station : String) : m ≠ .connect station := fun he => hm station 0 (.inl he)
  have hstation (id : Nat) (c : Connection) : (f id c).station = c.station :=
    congrArg Prod.fst (hface id c)
  refine ⟨h.sound.of_connection hc hid hnext, h.placed.of_online (fun id => ?_) (ho ▸ fun _ _ h => h),
    hn, ?_, fun station id => ?_, fun id c' hc' => ?_⟩
  · rw [hc, Option.map_map]
    congr 1
    funext c
    exact hstation id c
  · rw [hnext, h.nextConnection, SwitchboardStep.opened_concat hopens]
  · rw [ho, h.online, SwitchboardStep.current_concat (hm station id) (hopens station)]
  · rw [hc] at hc'
    obtain ⟨c, hold, rfl⟩ := Option.map_eq_some_iff.1 hc'
    have hisOpen : (f id c).isOpen = c.isOpen := congrArg Prod.snd (hface id c)
    rw [hisOpen, hstation, h.listening id c hold, SwitchboardStep.listening_concat hopens]
    exact (and_iff_left (hh id)).symm

theorem connect (station : String) : (s.connect station).2.Follows (ms ++ [.connect station]) := by
  refine ⟨h.sound.connect station, h.placed.connect h.sound station, h.numbered, ?_,
    fun station' id => ?_, fun id c hc => ?_⟩
  · rw [SwitchboardStep.opened_concat_connect, ← h.nextConnection]
    rfl
  · have honline : (s.connect station).2.online.get? station' =
        if station' = station then some s.nextConnection else s.online.get? station' :=
      Table.get?_insert ..
    rw [honline, SwitchboardStep.current_concat_connect, ← h.nextConnection, ← h.online]
    split
    · exact ⟨fun he => (Option.some.inj he).symm, fun he => congrArg some he.symm⟩
    · exact Iff.rfl
  · rw [connection?_connect] at hc
    rw [SwitchboardStep.listening_concat_connect, ← h.nextConnection]
    split at hc
    · next hid =>
      obtain rfl := Option.some.inj hc
      exact iff_of_true rfl (.inl ⟨rfl, hid⟩)
    · next hid =>
      rw [h.listening id c hc]
      exact ⟨.inr, fun hl => hl.resolve_left fun hnew => hid hnew.2⟩

theorem disconnect (id : Nat) : (s.disconnect id).2.Follows (ms ++ [.disconnect id]) := by
  have hopens (station : String) : SwitchboardStep.disconnect id ≠ .connect station := nofun
  have hlistening (id' : Nat) (c : Connection) (hc : s.connection? id' = some c) :
      c.isOpen = true ↔ SwitchboardStep.Listening (ms ++ [.disconnect id]) c.station id' := by
    rw [h.listening id' c hc, SwitchboardStep.listening_concat hopens]
    exact (and_iff_left nofun).symm
  have hnext : s.nextConnection = SwitchboardStep.opened (ms ++ [.disconnect id]) + 1 :=
    h.nextConnection.trans (congrArg (· + 1) (SwitchboardStep.opened_concat hopens).symm)
  have hplaced := h.placed.disconnect id
  rcases disconnect_cases h.sound h.placed id with ⟨c, hc, hcurrent, he⟩ | ⟨hnot, he⟩
  · rw [he] at hplaced ⊢
    refine ⟨⟨h.sound.id, h.sound.fresh⟩, hplaced, fun k a hk => ?_, hnext, fun station id' => ?_,
      hlistening⟩
    · rw [Table.get?_filter] at hk
      split at hk
      · exact h.numbered k a hk
      · cases hk
    · rw [Table.get?_erase, SwitchboardStep.current_concat_disconnect, ← h.online]
      split
      · next hstation =>
        subst hstation
        rw [hcurrent]
        simp [eq_comm]
      · next hstation =>
        refine (and_iff_left_of_imp fun hid he => hstation ?_).symm
        have hown := h.placed station id' hid
        rw [he, hc] at hown
        exact (Option.some.inj hown).symm
  · rw [he]
    refine ⟨h.sound, h.placed, h.numbered, hnext, fun station id' => ?_, hlistening⟩
    rw [SwitchboardStep.current_concat_disconnect, h.online]
    refine (and_iff_left_of_imp fun hid he => ?_).symm
    exact hnot station (he ▸ (h.online station id').2 hid)

theorem hangUp (id : Nat) : (s.hangUp id).Follows (ms ++ [.hangUp id]) := by
  have hopens (station : String) : SwitchboardStep.hangUp id ≠ .connect station := nofun
  refine ⟨h.sound.hangUp id, h.placed.hangUp id, h.numbered, ?_, fun station id' => ?_,
    fun id' c' hc' => ?_⟩
  · rw [SwitchboardStep.opened_concat hopens]
    exact h.nextConnection
  · rw [SwitchboardStep.current_concat (by simp [SwitchboardStep.Supersedes]) (hopens station),
      ← h.online]
    rfl
  · rw [connection?_hangUp] at hc'
    obtain ⟨c, hc, rfl⟩ := Option.map_eq_some_iff.1 hc'
    have hold := h.listening id' c hc
    rw [SwitchboardStep.listening_concat hopens]
    by_cases he : id' = id
    · simp [he]
    · simp [he, hold, Ne.symm he]

theorem closeAll : s.closeAll.Follows (ms ++ [.closeAll]) := by
  have hopens (station : String) : SwitchboardStep.closeAll ≠ .connect station := nofun
  refine ⟨⟨h.sound.id, h.sound.fresh⟩, fun _ _ hid => (nomatch hid), fun _ _ hk => (nomatch hk), ?_,
    fun station id => iff_of_false nofun SwitchboardStep.not_current_concat_closeAll, fun id c hc => ?_⟩
  · rw [SwitchboardStep.opened_concat hopens]
    exact h.nextConnection
  · rw [SwitchboardStep.listening_concat hopens]
    exact (h.listening id c hc).trans (and_iff_left nofun).symm

theorem request (station : String) (command : Command) :
    (s.give (station, command)).Follows (ms ++ [.request station command]) := by
  have hm (station' : String) (id : Nat) :
      ¬ (SwitchboardStep.request station command).Supersedes station' id := by
    simp [SwitchboardStep.Supersedes]
  have hsame : s.Follows (ms ++ [.request station command]) :=
    h.calm (f := fun _ c => c) (fun id => by rw [Option.map_id']) (fun _ _ => rfl) (fun _ _ => rfl)
      rfl rfl h.numbered hm nofun
  rw [give]
  cases hc : s.session? station with
  | none =>
    rw [(request_of_none command hc).1]
    exact hsame
  | some c =>
    cases ho : c.isOpen with
    | false =>
      rw [(request_of_closed command h.sound hc h.numbered ho).1]
      exact hsame
    | true =>
      rw [(request_of_open command h.sound hc ho).1]
      have hconnection := connection?_of_session? h.sound hc
      exact h.calm (connection?_sent command h.sound hc) (fun _ _ => rfl) (fun _ _ => rfl) rfl rfl
        (h.numbered.sent c station command) hm nofun

theorem settle (station uniqueId : String) :
    (s.takePending station uniqueId).2.Follows (ms ++ [.settle station uniqueId]) := by
  refine h.calm (f := fun _ c => c) (fun id => ?_) (fun _ _ => rfl) (fun _ _ => rfl) rfl rfl
    (fun k a hk => ?_) (by simp [SwitchboardStep.Supersedes]) nofun
  · rw [Option.map_id']
    rfl
  · have hold := hk.symm.trans (Table.get?_erase s.pending ⟨station, uniqueId⟩ k)
    split at hold
    · cases hold
    · exact h.numbered k a hold.symm

theorem flush : s.flush.Follows (ms ++ [.flush]) :=
  h.calm (f := fun _ c => { c with outbox := [] }) s.connection?_flush (fun _ _ => rfl)
    (fun _ _ => rfl) rfl rfl h.numbered (by simp [SwitchboardStep.Supersedes]) nofun

theorem session?_iff {station : String} {id : Nat} :
    (s.session? station).map (·.id) = some id ↔ SwitchboardStep.Current ms station id := by
  rw [← h.online, session?]
  cases ho : s.online.get? station with
  | none => simp
  | some i =>
    obtain ⟨c, hc, -⟩ := Option.map_eq_some_iff.1 (h.placed station i ho)
    simp [hc, h.sound.id hc]

theorem disconnect_iff (id : Nat) :
    ((s.disconnect id).1 = true ↔ ∃ station, SwitchboardStep.Current ms station id) ∧
      ((s.disconnect id).1 = false → (s.disconnect id).2 = s) := by
  rcases disconnect_cases h.sound h.placed id with ⟨c, -, hcurrent, he⟩ | ⟨hnot, he⟩
  · rw [he]
    exact ⟨iff_of_true rfl ⟨c.station, (h.online c.station id).1 hcurrent⟩, nofun⟩
  · rw [he]
    refine ⟨iff_of_false nofun ?_, fun _ => rfl⟩
    rintro ⟨station, hid⟩
    exact hnot station ((h.online station id).2 hid)

theorem of_session? {station : String} {c : Connection} (hc : s.session? station = some c) :
    SwitchboardStep.Current ms station c.id ∧ c.station = station ∧
      (c.isOpen = true ↔ SwitchboardStep.Listening ms station c.id) := by
  have hcurrent : SwitchboardStep.Current ms station c.id := h.session?_iff.1 (by rw [hc]; rfl)
  have hconnection := connection?_of_session? h.sound hc
  have hown : c.station = station := by
    have hplaced := h.placed station c.id ((h.online station c.id).2 hcurrent)
    rw [hconnection] at hplaced
    exact Option.some.inj hplaced
  exact ⟨hcurrent, hown, hown ▸ h.listening c.id c hconnection⟩

theorem step (m : SwitchboardStep) : (s.step m).Follows (ms ++ [m]) := by
  cases m with
  | connect station => exact h.connect station
  | disconnect id => exact h.disconnect id
  | closeAll => exact h.closeAll
  | request station command => exact h.request station command
  | settle station uniqueId => exact h.settle station uniqueId
  | hangUp id => exact h.hangUp id
  | flush => exact h.flush

end Follows

theorem follows_new (seed : Nat) : ({ seed } : Switchboard).Follows [] where
  sound := ⟨nofun, nofun⟩
  placed := nofun
  numbered := nofun
  nextConnection := rfl
  online station id := by
    refine iff_of_false nofun ?_
    rintro ⟨before, since, he, -⟩
    simp at he
  listening := nofun

/-- By induction over the steps from the last one on, since the history is read from its end. -/
theorem follows_runSteps (seed : Nat) (ms : List SwitchboardStep) :
    (({ seed } : Switchboard).runSteps ms).Follows ms := by
  induction ms using List.reverseRecOn with
  | nil => exact follows_new seed
  | append_singleton ms m ih =>
    rw [runSteps, List.foldl_append]
    exact ih.step m

end Switchboard

/-- Whatever has happened at a switchboard, a charge point is reached over the connection that was
opened last for it, unless this or all were closed since. Closing a connection takes this charge
point off line in exactly this case, and changes nothing otherwise. A command to a charge point is
queued once, on this connection alone, if its receiving side is there, and leaves no trace
otherwise. -/
theorem session_takeover (seed : Nat) (ms : List SwitchboardStep) :
    let s := ({ seed } : Switchboard).runSteps ms
    (∀ station id,
      (s.session? station).map (·.id) = some id ↔ SwitchboardStep.Current ms station id) ∧
    (∀ id, ((s.disconnect id).1 = true ↔ ∃ station, SwitchboardStep.Current ms station id) ∧
      ((s.disconnect id).1 = false → (s.disconnect id).2 = s)) ∧
    ∀ station command, match s.request station command with
      | .ok (uniqueId, s') =>
        s.attempt station command = (.ok uniqueId, s') ∧
        s'.online = s.online ∧
        s.pending.get? ⟨station, uniqueId⟩ = none ∧
        s'.pending = s.pending.insert ⟨station, uniqueId⟩ command.action ∧
        ∃ id, SwitchboardStep.Current ms station id ∧ SwitchboardStep.Listening ms station id ∧
          ∀ id', s'.outbox id' =
            s.outbox id' ++ if id' = id then [command.encode uniqueId] else []
      | .error e =>
        s.attempt station command = (.error e, s) ∧ e = .notConnected station ∧
        ∀ id, SwitchboardStep.Current ms station id → ¬ SwitchboardStep.Listening ms station id := by
  intro s
  have hf : s.Follows ms := Switchboard.follows_runSteps seed ms
  refine ⟨fun _ _ => hf.session?_iff, hf.disconnect_iff, fun station command => ?_⟩
  cases hc : s.session? station with
  | none =>
    obtain ⟨hrequest, hattempt⟩ := Switchboard.request_of_none command hc
    rw [hrequest]
    refine ⟨hattempt, rfl, fun id hid => ?_⟩
    rw [← hf.session?_iff, hc] at hid
    cases hid
  | some c =>
    obtain ⟨hcurrent, hown, hlistening⟩ := hf.of_session? hc
    cases ho : c.isOpen with
    | false =>
      obtain ⟨hrequest, hattempt⟩ :=
        Switchboard.request_of_closed command hf.sound hc hf.numbered ho
      rw [hrequest]
      refine ⟨hattempt, congrArg Error.notConnected hown, fun id hid hl => ?_⟩
      obtain rfl : c.id = id := by
        rw [← hf.session?_iff, hc] at hid
        exact Option.some.inj hid
      rw [hlistening.2 hl] at ho
      cases ho
    | true =>
      obtain ⟨hrequest, hattempt⟩ := Switchboard.request_of_open command hf.sound hc ho
      rw [hrequest]
      exact ⟨hattempt, rfl, hf.numbered.get?_next station, rfl, c.id, hcurrent, hlistening.1 ho,
        Switchboard.outbox_sent command hf.sound hc⟩

/-- A connection that is cleaned up late leaves the newer one in its place. -/
example : let s := ({} : Switchboard).runSteps [.connect "north", .connect "north", .disconnect 1]
    (s.session? "north").map (·.id) = some 2 ∧ (s.disconnect 2).1 = true := by
  decide

end CentralSystem
