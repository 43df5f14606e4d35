import CentralSystem.Proofs.Commands
import CentralSystem.Proofs.Sessions
import Mathlib.Data.List.Perm.Basic

namespace CentralSystem

/-- What the history of a switchboard records of its sessions and Calls. -/
inductive SwitchboardEvent where
  | opened (station : String) (connection : Nat)
  | ended (station : String)
  | endedAll
  | called (connection : Nat) (key : CallKey) (action : String)
  | answered (key : CallKey)
deriving DecidableEq

namespace SwitchboardEvent

def call? (connection : Nat) (station text : String) : Option SwitchboardEvent :=
  match Frame.parse text with
  | .ok (.call uniqueId action _) => some (called connection ⟨station, uniqueId⟩ action)
  | _ => none

/-- The answer that a text of a charge point makes. -/
def answer? (station text : String) : Option SwitchboardEvent :=
  ((Frame.parse text).toOption.bind Reply.ofFrame?).map fun r => answered ⟨station, r.uniqueId⟩

def connection? : SwitchboardEvent → Option Nat
  | opened _ id => some id
  | _ => none

def uniqueId? : SwitchboardEvent → Option String
  | called _ k _ => some k.uniqueId
  | _ => none

def connections (ds : List SwitchboardEvent) : List Nat := ds.filterMap connection?

def uniqueIds (ds : List SwitchboardEvent) : List String := ds.filterMap uniqueId?

/-- What a Call no longer waits behind: its answer, the end of the session, the end of all. -/
def Settles (k : CallKey) (d : SwitchboardEvent) : Prop :=
  d = answered k ∨ d = ended k.station ∨ d = endedAll

def Supersedes (station : String) (d : SwitchboardEvent) : Prop :=
  (∃ id, d = opened station id) ∨ d = ended station ∨ d = endedAll

/-- Something began, and nothing came since that ends it. -/
def Lasts (begins ends : SwitchboardEvent → Prop) (ds : List SwitchboardEvent) : Prop :=
  ∃ before d since, ds = before ++ d :: since ∧ begins d ∧ ∀ e ∈ since, ¬ ends e

/-- A Call for this action was sent, and has not been settled since. -/
def Awaits (ds : List SwitchboardEvent) (k : CallKey) (action : String) : Prop :=
  Lasts (fun d => ∃ id, d = called id k action) (Settles k) ds

/-- The session of a charge point that began last, if it did not end since. -/
def Current (ds : List SwitchboardEvent) (station : String) (id : Nat) : Prop :=
  Lasts (· = opened station id) (Supersedes station) ds

variable {begins ends : SwitchboardEvent → Prop} {ds es : List SwitchboardEvent}
  {d : SwitchboardEvent} {k : CallKey} {station action : String} {id : Nat}

theorem not_lasts_nil : ¬ Lasts begins ends [] := by
  rintro ⟨before, d, since, he, -⟩
  simp at he

theorem lasts_concat :
    Lasts begins ends (ds ++ [d]) ↔ begins d ∨ (Lasts begins ends ds ∧ ¬ ends d) := by
  constructor
  · rintro ⟨before, e, since, he, hbegins, hsince⟩
    rcases concat_eq_append_cons.1 he with ⟨-, rfl, -⟩ | ⟨since, rfl, rfl⟩
    · exact .inl hbegins
    · exact .inr ⟨⟨before, e, since, rfl, hbegins, fun e he => hsince e (by simp [he])⟩,
        hsince d (by simp)⟩
  · rintro (hbegins | ⟨⟨before, e, since, rfl, hbegins, hsince⟩, hd⟩)
    · exact ⟨ds, d, [], rfl, hbegins, List.forall_mem_nil _⟩
    · refine ⟨before, e, since ++ [d], by simp, hbegins, List.forall_mem_append.2 ⟨hsince, ?_⟩⟩
      exact List.forall_mem_singleton.2 hd

/-- By induction over what came since from its last part on, as histories are read from the end. -/
theorem lasts_append (hes : ∀ e ∈ es, ¬ ends e) :
    Lasts begins ends (ds ++ es) ↔ Lasts begins ends ds ∨ ∃ e ∈ es, begins e := by
  induction es using List.reverseRecOn with
  | nil => simp
  | append_singleton es e ih =>
    rw [← List.append_assoc, lasts_concat, ih fun e' he' => hes e' (by simp [he'])]
    have hbegins : (∃ e' ∈ es ++ [e], begins e') ↔ (∃ e' ∈ es, begins e') ∨ begins e := by
      simp [or_and_right, exists_or]
    rw [hbegins, and_iff_left (hes e (by simp)), or_comm, or_assoc]

theorem not_lasts_append (hbegins : ∀ e ∈ es, ¬ begins e) (hends : ∃ e ∈ es, ends e) :
    ¬ Lasts begins ends (ds ++ es) := by
  induction es using List.reverseRecOn with
  | nil =>
    obtain ⟨e, he, -⟩ := hends
    cases he
  | append_singleton es e ih =>
    rw [← List.append_assoc, lasts_concat, not_or]
    refine ⟨hbegins e (by simp), fun ⟨hlasts, hlast⟩ => ?_⟩
    refine ih (fun e' he' => hbegins e' (by simp [he'])) ?_ hlasts
    obtain ⟨e', he', hends⟩ := hends
    rcases List.mem_append.1 he' with he' | he'
    · exact ⟨e', he', hends⟩
    · exact absurd (List.mem_singleton.1 he' ▸ hends) hlast

theorem connections_append : connections (ds ++ es) = connections ds ++ connections es :=
  List.filterMap_append

theorem connection_mem (h : opened station id ∈ ds) : id ∈ connections ds :=
  List.mem_filterMap.2 ⟨_, h, rfl⟩

theorem uniqueIds_append : uniqueIds (ds ++ es) = uniqueIds ds ++ uniqueIds es :=
  List.filterMap_append

theorem uniqueId_mem (h : called id k action ∈ ds) : k.uniqueId ∈ uniqueIds ds :=
  List.mem_filterMap.2 ⟨_, h, rfl⟩

theorem Current.opened_mem (h : Current ds station id) : opened station id ∈ ds := by
  obtain ⟨before, d, since, rfl, rfl, -⟩ := h
  simp

theorem Current.append (h : Current ds station id)
    (hes : ∀ e ∈ es, e ≠ ended station ∧ e ≠ endedAll) : ∃ id', Current (ds ++ es) station id' ∧
      (opened station id' ∈ es ∨ (id' = id ∧ ∀ id'', opened station id'' ∉ es)) := by
  induction es using List.reverseRecOn with
  | nil => exact ⟨id, (List.append_nil ds).symm ▸ h, .inr ⟨rfl, fun _ => List.not_mem_nil⟩⟩
  | append_singleton es e ih =>
    obtain ⟨id', hid', hlast⟩ := ih fun e' he' => hes e' (by simp [he'])
    obtain ⟨hended, hall⟩ := hes e (by simp)
    simp only [← List.append_assoc, Current, lasts_concat]
    by_cases hopened : ∃ i, e = opened station i
    · obtain ⟨i, rfl⟩ := hopened
      exact ⟨i, .inl rfl, .inl (by simp)⟩
    · have hgoes : ¬ Supersedes station e := by simpa [Supersedes, hended, hall] using hopened
      refine ⟨id', .inr ⟨hid', hgoes⟩, hlast.imp (fun hmem => by simp [hmem]) ?_⟩
      rintro ⟨rfl, hnone⟩
      refine ⟨rfl, fun i hmem => ?_⟩
      rcases List.mem_append.1 hmem with hmem | hmem
      · exact hnone i hmem
      · exact hopened ⟨i, (List.mem_singleton.1 hmem).symm⟩

theorem Awaits.called_mem (h : Awaits ds k action) : ∃ id, called id k action ∈ ds := by
  obtain ⟨before, d, since, rfl, ⟨id, rfl⟩, -⟩ := h
  exact ⟨id, by simp⟩

def CalledOnline (ds : List SwitchboardEvent) : Prop :=
  ∀ before id k action since, ds = before ++ called id k action :: since →
    Current before k.station id

theorem CalledOnline.append (h : CalledOnline ds)
    (hes : ∀ before id k action since, es = before ++ called id k action :: since →
      Current (ds ++ before) k.station id) : CalledOnline (ds ++ es) := by
  intro before id k action since he
  rcases List.append_eq_append_iff.1 he with ⟨es', rfl, hsplit⟩ | ⟨ds', hds, hsplit⟩
  · exact hes es' id k action since hsplit
  · rcases List.cons_eq_append_iff.1 hsplit with ⟨rfl, hfirst⟩ | ⟨rest, rfl, -⟩
    · obtain rfl : ds = before := hds.trans (List.append_nil before)
      exact List.append_nil ds ▸ hes [] id k action since hfirst
    · exact h before id k action rest hds

theorem uniqueId_not_mem {before since : List SwitchboardEvent}
    (hn : (uniqueIds (before ++ called id k action :: since)).Nodup) :
    k.uniqueId ∉ uniqueIds before ∧ k.uniqueId ∉ uniqueIds since := by
  rw [uniqueIds_append, List.nodup_append] at hn
  obtain ⟨-, hsince, hdisjoint⟩ := hn
  exact ⟨fun hmem => hdisjoint _ hmem _ List.mem_cons_self rfl, (List.nodup_cons.1 hsince).1⟩

theorem key_eq_of_uniqueId_eq (hn : (uniqueIds ds).Nodup) {id' : Nat} {k' : CallKey}
    {action' : String} (h : called id k action ∈ ds) (h' : called id' k' action' ∈ ds)
    (he : k.uniqueId = k'.uniqueId) : k = k' := by
  obtain ⟨before, since, rfl⟩ := List.append_of_mem h
  obtain ⟨hbefore, hsince⟩ := uniqueId_not_mem hn
  rw [he] at hbefore hsince
  rcases List.mem_append.1 h' with h' | h'
  · exact absurd (uniqueId_mem h') hbefore
  · rcases List.mem_cons.1 h' with h' | h'
    · exact (called.inj h').2.1.symm
    · exact absurd (uniqueId_mem h') hsince

theorem not_awaits_of_settled {before since : List SwitchboardEvent}
    (hn : (uniqueIds (before ++ called id k action :: since)).Nodup)
    (hsettled : ∃ d ∈ since, Settles k d) (action' : String) :
    ¬ Awaits (before ++ called id k action :: since) k action' := by
  rw [List.append_cons]
  refine not_lasts_append (fun d hd hcalled => ?_) hsettled
  obtain ⟨id', rfl⟩ := hcalled
  exact (uniqueId_not_mem hn).2 (uniqueId_mem hd)

end SwitchboardEvent

namespace Switchboard

variable {s s' s'' : Switchboard} {ds : List SwitchboardEvent}

/-- The Calls that were queued on a connection in between. -/
def calledOver (s s' : Switchboard) (id : Nat) : List SwitchboardEvent :=
  ((s'.connection? id).map (·.station)).elim [] fun station =>
    ((s'.outbox id).drop (s.outbox id).length).filterMap (SwitchboardEvent.call? id station)

def called (s s' : Switchboard) : List SwitchboardEvent :=
  (List.range s'.nextConnection).flatMap (s.calledOver s')

theorem calledOver_eq_nil {id : Nat}
    (h : ∀ t ∈ (s'.outbox id).drop (s.outbox id).length, ¬ IsCall t) :
    s.calledOver s' id = [] := by
  rw [calledOver]
  cases (s'.connection? id).map (·.station) with
  | none => rfl
  | some station =>
    refine List.filterMap_eq_nil_iff.2 fun t ht => ?_
    rw [SwitchboardEvent.call?]
    split
    · next uniqueId action payload hparse => exact absurd ⟨_, _, _, hparse⟩ (h t ht)
    · rfl

theorem called_eq_nil (h : ∀ id, ∀ t ∈ (s'.outbox id).drop (s.outbox id).length, ¬ IsCall t) :
    s.called s' = [] := List.flatMap_eq_nil_iff.2 fun id _ => calledOver_eq_nil (h id)

theorem called_eq_nil_of_outbox (h : ∀ id, s'.outbox id = s.outbox id ∨ s'.outbox id = []) :
    s.called s' = [] := by
  refine called_eq_nil fun id t ht => ?_
  rcases h id with he | he
  · rw [he, List.drop_length] at ht
    cases ht
  · rw [he, List.drop_nil] at ht
    cases ht

theorem eq_of_mem_called {d : SwitchboardEvent} (h : d ∈ s.called s') :
    ∃ id k action, d = .called id k action := by
  obtain ⟨id, -, hd⟩ := List.mem_flatMap.1 h
  rw [calledOver] at hd
  cases hstation : (s'.connection? id).map (·.station) with
  | none =>
    rw [hstation] at hd
    cases hd
  | some station =>
    rw [hstation] at hd
    obtain ⟨t, -, ht⟩ := List.mem_filterMap.1 hd
    rw [SwitchboardEvent.call?] at ht
    split at ht
    · exact ⟨id, _, _, (Option.some.inj ht).symm⟩
    · cases ht

theorem not_settles_of_mem_called {d : SwitchboardEvent} (h : d ∈ s.called s') (k : CallKey) :
    ¬ d.Settles k := by
  obtain ⟨id, k', action, rfl⟩ := eq_of_mem_called h
  simp [SwitchboardEvent.Settles]

theorem not_supersedes_of_mem_called {d : SwitchboardEvent} (h : d ∈ s.called s')
    (station : String) :
    ¬ d.Supersedes station := by
  obtain ⟨id, k', action, rfl⟩ := eq_of_mem_called h
  simp [SwitchboardEvent.Supersedes]

theorem nodup_append_of_numbered (seed m : Nat) {us us' : List String} (h : us.Nodup)
    (h' : us'.Nodup) (hus : ∀ u ∈ us, ∃ n ≤ m, u = uniqueId seed n)
    (hus' : ∀ u ∈ us', ∃ n, m < n ∧ u = uniqueId seed n) : (us ++ us').Nodup := by
  refine List.nodup_append.2 ⟨h, h', fun u hu u' hu' he => ?_⟩
  obtain ⟨n, hle, hn⟩ := hus u hu
  obtain ⟨n', hlt, hn'⟩ := hus' u' hu'
  have hsame : n = n' := uniqueId_injective (hn.symm.trans (he.trans hn'))
  omega

/-- Nothing happened in between but that texts were queued, and the Calls among them wait now. -/
structure Asks (s s' : Switchboard) : Prop where
  sound : s'.Sound
  outbox : ∀ id, ∃ texts, s'.outbox id = s.outbox id ++ texts
  station : ∀ id, (s'.connection? id).map (·.station) = (s.connection? id).map (·.station)
  online : s'.online = s.online
  nextConnection : s'.nextConnection = s.nextConnection
  seed : s'.seed = s.seed
  issued : s.issued ≤ s'.issued
  /-- A Call goes over the connection that its charge point is reached over. -/
  current : ∀ id k action, .called id k action ∈ s.called s' → s.online.get? k.station = some id
  numbered : ∀ u ∈ SwitchboardEvent.uniqueIds (s.called s'), ∃ n, s.issued < n ∧ n ≤ s'.issued ∧
    u = uniqueId s.seed n
  distinct : (SwitchboardEvent.uniqueIds (s.called s')).Nodup
  pending : ∀ k action, (s'.pending.get? k).map Action.name = some action ↔
    (s.pending.get? k).map Action.name = some action ∨ ∃ id, .called id k action ∈ s.called s'

namespace Asks

theorem of_silence (hs : s'.Sound)
    (houtbox : ∀ id, ∃ texts, s'.outbox id = s.outbox id ++ texts ∧ ∀ t ∈ texts, ¬ IsCall t)
    (hstation : ∀ id, (s'.connection? id).map (·.station) = (s.connection? id).map (·.station))
    (he : ∃ connections, s' = { s with connections }) : s.Asks s' := by
  have hcalled : s.called s' = [] := by
    refine called_eq_nil fun id t ht => ?_
    obtain ⟨texts, he, hcalls⟩ := houtbox id
    rw [he, List.drop_left] at ht
    exact hcalls t ht
  obtain ⟨connections, rfl⟩ := he
  refine ⟨hs, fun id => ?_, hstation, rfl, rfl, rfl, Nat.le_refl _, ?_, ?_, ?_, ?_⟩
  · obtain ⟨texts, he, -⟩ := houtbox id
    exact ⟨texts, he⟩
  all_goals simp [hcalled, SwitchboardEvent.uniqueIds]

theorem refl (hs : s.Sound) : s.Asks s :=
  of_silence hs (fun _ => ⟨[], (List.append_nil _).symm, List.forall_mem_nil _⟩) (fun _ => rfl)
    ⟨s.connections, rfl⟩

theorem calledOver (h : s.Asks s') (h' : s'.Asks s'') (id : Nat) :
    s.calledOver s'' id = s.calledOver s' id ++ s'.calledOver s'' id := by
  obtain ⟨texts, he⟩ := h.outbox id
  obtain ⟨texts', he'⟩ := h'.outbox id
  rw [Switchboard.calledOver, Switchboard.calledOver, Switchboard.calledOver, h'.station, he', he,
    List.drop_left, List.append_assoc, List.drop_left, ← List.append_assoc, ← he, List.drop_left]
  cases (s'.connection? id).map (·.station) with
  | none => rfl
  | some station => exact List.filterMap_append

theorem called_perm (h : s.Asks s') (h' : s'.Asks s'') :
    (s.called s'').Perm (s.called s' ++ s'.called s'') := by
  have he : s.called s'' = (List.range s''.nextConnection).flatMap fun id =>
      s.calledOver s' id ++ s'.calledOver s'' id :=
    List.flatMap_congr fun id _ => calledOver h h' id
  rw [he, called, called, ← h'.nextConnection]
  exact (List.flatMap_append_perm _ _ _).symm

theorem trans (h : s.Asks s') (h' : s'.Asks s'') : s.Asks s'' := by
  have hperm := called_perm h h'
  have hids : (SwitchboardEvent.uniqueIds (s.called s'')).Perm
      (SwitchboardEvent.uniqueIds (s.called s') ++ SwitchboardEvent.uniqueIds (s'.called s'')) :=
    SwitchboardEvent.uniqueIds_append ▸ hperm.filterMap SwitchboardEvent.uniqueId?
  refine ⟨h'.sound, fun id => ?_, fun id => (h'.station id).trans (h.station id),
    h'.online.trans h.online, h'.nextConnection.trans h.nextConnection, h'.seed.trans h.seed,
    h.issued.trans h'.issued, fun id k action hd => ?_, fun u hu => ?_, ?_, fun k action => ?_⟩
  · obtain ⟨texts, he⟩ := h.outbox id
    obtain ⟨texts', he'⟩ := h'.outbox id
    exact ⟨texts ++ texts', by rw [he', he, List.append_assoc]⟩
  · rcases List.mem_append.1 (hperm.mem_iff.1 hd) with hd | hd
    · exact h.current id k action hd
    · exact h.online ▸ h'.current id k action hd
  · rcases List.mem_append.1 (hids.mem_iff.1 hu) with hu | hu
    · obtain ⟨n, hlt, hle, he⟩ := h.numbered u hu
      exact ⟨n, hlt, hle.trans h'.issued, he⟩
    · obtain ⟨n, hlt, hle, he⟩ := h'.numbered u hu
      exact ⟨n, Nat.lt_of_le_of_lt h.issued hlt, hle, h.seed ▸ he⟩
  · refine hids.nodup_iff.2 (nodup_append_of_numbered s.seed s'.issued h.distinct h'.distinct
      (fun u hu => ?_) fun u hu => ?_)
    · obtain ⟨n, -, hle, he⟩ := h.numbered u hu
      exact ⟨n, hle, he⟩
    · obtain ⟨n, hlt, -, he⟩ := h'.numbered u hu
      exact ⟨n, hlt, h.seed ▸ he⟩
  · simp only [h'.pending, h.pending, hperm.mem_iff, List.mem_append, exists_or, or_assoc]

theorem placed (h : s.Asks s') (hp : s.Placed) : s'.Placed :=
  hp.of_online h.station fun _ _ hid => h.online ▸ hid

theorem of_numbered (h : s.Asks s') (hn : s.Numbered) : s'.Numbered := by
  intro k a hk
  have hname : (s'.pending.get? k).map Action.name = some a.name := by rw [hk]; rfl
  rw [h.seed]
  rcases (h.pending k a.name).1 hname with hold | ⟨id, hd⟩
  · obtain ⟨a', ha', -⟩ := Option.map_eq_some_iff.1 hold
    obtain ⟨n, hle, he⟩ := hn k a' ha'
    exact ⟨n, hle.trans h.issued, he⟩
  · obtain ⟨n, -, hle, he⟩ := h.numbered _ (SwitchboardEvent.uniqueId_mem hd)
    exact ⟨n, hle, he⟩

end Asks

section Steps

variable (hs : s.Sound)
include hs

theorem asks_noteCall (id : Nat) (uniqueId : String) : s.Asks (s.noteCall id uniqueId) := by
  refine .of_silence (hs.noteCall id uniqueId) (fun id' => ⟨[], ?_, List.forall_mem_nil _⟩)
    (fun id' => ?_) ⟨_, rfl⟩
  · rw [outbox_noteCall, List.append_nil]
  · rw [connection?_noteCall, Option.map_map]
    congr 1
    funext c
    by_cases he : id' = id <;> simp [he]

theorem asks_answer {c : Connection} {answer : Frame} (hf : answer.Legible)
    (hanswer : (Reply.ofFrame? answer).isSome = true) (h : s.send c answer.render = .ok s') :
    s.Asks s' := by
  have hcall : ¬ IsCall answer.render := by
    rintro ⟨uniqueId, action, payload, hparse⟩
    obtain rfl := Except.ok.inj ((Frame.parse_render hf).symm.trans hparse)
    cases hanswer
  refine .of_silence (sound_send hs h) (fun id => ?_) (fun id => ?_) (eq_of_send h)
  · rw [outbox_of_connection (connection?_of_send hs h id), outbox]
    cases s.connection? id with
    | none => exact ⟨[], rfl, List.forall_mem_nil _⟩
    | some d =>
      refine ⟨_, rfl, fun t ht => ?_⟩
      split at ht
      · exact List.mem_singleton.1 ht ▸ hcall
      · cases ht
  · rw [connection?_of_send hs h, Option.map_map]
    rfl

theorem online_of_session? {station : String} {c : Connection} (hc : s.session? station = some c) :
    s.online.get? station = some c.id := by
  obtain ⟨id, hid, hget⟩ := Option.bind_eq_some_iff.1 hc
  exact hs.id hget ▸ hid

variable (hp : s.Placed)
include hp

theorem station_of_session? {station : String} {c : Connection} (hc : s.session? station = some c) :
    c.station = station := by
  have hplaced := hp station c.id (online_of_session? hs hc)
  rw [connection?_of_session? hs hc] at hplaced
  exact Option.some.inj hplaced

theorem called_sent {station : String} {c : Connection} (hc : s.session? station = some c)
    (command : Command) : s.called (s.sent c station command) =
      [.called c.id ⟨station, uniqueId s.seed (s.issued + 1)⟩ command.action.name] := by
  have hconnection := connection?_of_session? hs hc
  have hover (id : Nat) : s.calledOver (s.sent c station command) id = if id = c.id then
      [.called c.id ⟨station, uniqueId s.seed (s.issued + 1)⟩ command.action.name] else [] := by
    rw [calledOver, outbox_sent command hs hc, List.drop_left, connection?_sent command hs hc,
      Option.map_map]
    split
    · next he =>
      have hread : Frame.parse (command.encode (uniqueId s.seed (s.issued + 1))) =
          .ok (command.frame (uniqueId s.seed (s.issued + 1))) :=
        Frame.parse_render (command.legible_frame _)
      subst he
      rw [hconnection]
      simp [Connection.queue, station_of_session? hs hp hc, SwitchboardEvent.call?, hread,
        Command.frame]
    · cases s.connection? id <;> rfl
  have hown : c.id ∈ List.range (s.sent c station command).nextConnection :=
    List.mem_range.2 (hs.fresh hconnection)
  have hothers : ∀ id ∈ List.range (s.sent c station command).nextConnection, id ≠ c.id →
      s.calledOver (s.sent c station command) id = [] :=
    fun id _ hne => (hover id).trans (if_neg hne)
  rw [called, flatMap_eq_of_forall_ne List.nodup_range hown hothers, hover, if_pos rfl]

theorem asks_sent {station : String} {c : Connection} (hc : s.session? station = some c)
    (hn : s.Numbered) (command : Command) : s.Asks (s.sent c station command) := by
  have hcalled := called_sent hs hp hc command
  refine ⟨hs.of_connection (connection?_sent command hs hc) (fun _ _ => rfl) rfl,
    fun id => ⟨_, outbox_sent command hs hc id⟩, fun id => ?_, rfl, rfl, rfl, Nat.le_succ _,
    fun id k action hd => ?_, fun u hu => ?_, ?_, fun k action => ?_⟩
  · rw [connection?_sent command hs hc, Option.map_map]
    rfl
  · rw [hcalled] at hd
    obtain ⟨rfl, rfl, -⟩ := SwitchboardEvent.called.inj (List.mem_singleton.1 hd)
    exact online_of_session? hs hc
  · rw [hcalled] at hu
    exact ⟨s.issued + 1, Nat.lt_succ_self _, Nat.le_refl _, List.mem_singleton.1 hu⟩
  · rw [hcalled]
    exact List.nodup_singleton _
  · have hget : (s.sent c station command).pending.get? k =
        if k = ⟨station, uniqueId s.seed (s.issued + 1)⟩ then some command.action
        else s.pending.get? k := Table.get?_insert ..
    rw [hcalled, hget]
    split
    · next he =>
      subst he
      simp [hn.get?_next station, eq_comm]
    · next he => simp [he]

theorem asks_give (hn : s.Numbered) (e : Errand) : s.Asks (s.give e) := by
  obtain ⟨station, command⟩ := e
  cases hc : s.session? station with
  | none =>
    rw [give, (request_of_none command hc).1]
    exact .refl hs
  | some c =>
    cases ho : c.isOpen with
    | false =>
      rw [give, (request_of_closed command hs hc hn ho).1]
      exact .refl hs
    | true =>
      rw [give, (request_of_open command hs hc ho).1]
      exact asks_sent hs hp hc hn command

theorem asks_giveAll (hn : s.Numbered) (es : List Errand) : s.Asks (s.giveAll es) := by
  induction es generalizing s with
  | nil => exact .refl hs
  | cons e rest ih =>
    have hfirst := asks_give hs hp hn e
    exact hfirst.trans (ih hfirst.sound (hfirst.placed hp) (hfirst.of_numbered hn))

end Steps

/-- What a switchboard has come to is what its history tells. -/
structure Reflects (s : Switchboard) (ds : List SwitchboardEvent) : Prop where
  sound : s.Sound
  placed : s.Placed
  pending : ∀ k action, (s.pending.get? k).map Action.name = some action ↔
    SwitchboardEvent.Awaits ds k action
  online : ∀ station id, s.online.get? station = some id ↔ SwitchboardEvent.Current ds station id
  numbered : ∀ u ∈ SwitchboardEvent.uniqueIds ds, ∃ n ≤ s.issued, u = uniqueId s.seed n
  distinct : (SwitchboardEvent.uniqueIds ds).Nodup
  fresh : ∀ id ∈ SwitchboardEvent.connections ds, id < s.nextConnection
  once : (SwitchboardEvent.connections ds).Nodup
  current : SwitchboardEvent.CalledOnline ds

namespace Reflects

variable (h : s.Reflects ds)
include h

theorem numbered_pending : s.Numbered := by
  intro k a hk
  have hname : (s.pending.get? k).map Action.name = some a.name := by rw [hk]; rfl
  obtain ⟨id, hd⟩ := ((h.pending k a.name).1 hname).called_mem
  exact h.numbered _ (SwitchboardEvent.uniqueId_mem hd)

theorem still (hs : s'.Sound) (hp : s'.Placed) (hpending : s'.pending = s.pending)
    (honline : s'.online = s.online) (hseed : s'.seed = s.seed) (hissued : s'.issued = s.issued)
    (hnext : s'.nextConnection = s.nextConnection) : s'.Reflects ds :=
  ⟨hs, hp, hpending ▸ h.pending, honline ▸ h.online, hseed ▸ hissued ▸ h.numbered, h.distinct,
    hnext ▸ h.fresh, h.once, h.current⟩

theorem mark {d : SwitchboardEvent} (hs : s'.Sound) (hp : s'.Placed) (hseed : s'.seed = s.seed)
    (hissued : s'.issued = s.issued) (hcalled : d.uniqueId? = none)
    (hpending : ∀ k a, s'.pending.get? k = some a ↔ s.pending.get? k = some a ∧ ¬ d.Settles k)
    (honline : ∀ station id, s'.online.get? station = some id ↔
      d = .opened station id ∨ (s.online.get? station = some id ∧ ¬ d.Supersedes station))
    (hnext : s.nextConnection ≤ s'.nextConnection)
    (hopened : ∀ id, d.connection? = some id → s.nextConnection ≤ id ∧ id < s'.nextConnection) :
    s'.Reflects (ds ++ [d]) := by
  have hids : SwitchboardEvent.uniqueIds (ds ++ [d]) = SwitchboardEvent.uniqueIds ds := by
    simp [SwitchboardEvent.uniqueIds, hcalled]
  have hconnections :
      SwitchboardEvent.connections (ds ++ [d]) =
        SwitchboardEvent.connections ds ++ d.connection?.toList := by
    cases hd : d.connection? <;> simp [SwitchboardEvent.connections, hd]
  refine ⟨hs, hp, fun k action => ?_, fun station id => ?_, ?_, ?_, fun id hid => ?_, ?_,
    h.current.append fun before id k action since he => ?_⟩
  · have hother : ¬ ∃ id, d = .called id k action := by
      rintro ⟨id, rfl⟩
      cases hcalled
    rw [SwitchboardEvent.Awaits, SwitchboardEvent.lasts_concat, ← SwitchboardEvent.Awaits,
      ← h.pending, or_iff_right hother]
    simp only [Option.map_eq_some_iff, hpending, and_right_comm, exists_and_right]
  · rw [honline, h.online, SwitchboardEvent.Current, SwitchboardEvent.Current,
      SwitchboardEvent.lasts_concat]
  · rw [hids, hseed, hissued]
    exact h.numbered
  · rw [hids]
    exact h.distinct
  · rw [hconnections, List.mem_append, Option.mem_toList] at hid
    rcases hid with hid | hid
    · exact Nat.lt_of_lt_of_le (h.fresh id hid) hnext
    · exact (hopened id hid).2
  · rw [hconnections]
    refine List.nodup_append.2 ⟨h.once, Option.toList_nodup _, fun id hid id' hid' he => ?_⟩
    have hlt := h.fresh id hid
    have hle := (hopened id' (Option.mem_toList.1 hid')).1
    omega
  · have hmem : SwitchboardEvent.called id k action ∈ [d] := he ▸ by simp
    obtain rfl := List.mem_singleton.1 hmem
    cases hcalled

theorem connect (station : String) :
    (s.connect station).2.Reflects (ds ++ [.opened station s.nextConnection]) := by
  refine h.mark (h.sound.connect station) (h.placed.connect h.sound station) rfl rfl rfl
    (fun k a => ?_) (fun station' id => ?_) (Nat.le_succ _) fun id hid => ?_
  · exact (and_iff_left (by simp [SwitchboardEvent.Settles])).symm
  · have hget : (s.connect station).2.online.get? station' =
        if station' = station then some s.nextConnection else s.online.get? station' :=
      Table.get?_insert ..
    rw [hget]
    by_cases he : station' = station
    · simp [he, SwitchboardEvent.Supersedes, eq_comm]
    · simp [he, Ne.symm he, SwitchboardEvent.Supersedes]
  · obtain rfl := Option.some.inj hid
    exact ⟨Nat.le_refl _, Nat.lt_succ_self _⟩

theorem disconnect {id : Nat} {c : Connection} (hc : s.connection? id = some c)
    (he : (s.disconnect id).1 = true) :
    (s.disconnect id).2.Reflects (ds ++ [.ended c.station]) := by
  have hsame : (s.disconnect id).2 = { s with
      online := s.online.erase c.station
      pending := s.pending.filter (·.station != c.station) } := by
    rcases disconnect_cases h.sound h.placed id with ⟨c', hc', -, hcase⟩ | ⟨-, hcase⟩
    · obtain rfl : c' = c := Option.some.inj (hc'.symm.trans hc)
      exact congrArg Prod.snd hcase
    · rw [hcase] at he
      cases he
  have hplaced := h.placed.disconnect id
  rw [hsame] at hplaced ⊢
  refine h.mark ⟨h.sound.id, h.sound.fresh⟩ hplaced rfl rfl rfl (fun k a => ?_)
    (fun station id' => ?_) (Nat.le_refl _) nofun
  · rw [Table.get?_filter]
    by_cases hk : k.station = c.station
    · simp [hk, SwitchboardEvent.Settles]
    · simp [hk, Ne.symm hk, SwitchboardEvent.Settles]
  · rw [Table.get?_erase]
    by_cases hstation : station = c.station
    · simp [hstation, SwitchboardEvent.Supersedes]
    · simp [hstation, Ne.symm hstation, SwitchboardEvent.Supersedes]

theorem closeAll : s.closeAll.Reflects (ds ++ [.endedAll]) := by
  refine h.mark ⟨h.sound.id, h.sound.fresh⟩ (fun _ _ hid => (nomatch hid)) rfl rfl rfl
    (fun k a => iff_of_false nofun ?_) (fun station id => iff_of_false nofun ?_) (Nat.le_refl _)
    nofun
  · simp [SwitchboardEvent.Settles]
  · simp [SwitchboardEvent.Supersedes]

theorem settle (k : CallKey) :
    ({ s with pending := s.pending.erase k } : Switchboard).Reflects (ds ++ [.answered k]) := by
  refine h.mark ⟨h.sound.id, h.sound.fresh⟩ h.placed rfl rfl rfl (fun k' a => ?_)
    (fun station id => ?_) (Nat.le_refl _) nofun
  · rw [Table.get?_erase]
    by_cases hk : k' = k
    · simp [hk, SwitchboardEvent.Settles]
    · simp [hk, Ne.symm hk, SwitchboardEvent.Settles]
  · simp [SwitchboardEvent.Supersedes]

theorem asks (ha : s.Asks s') : s'.Reflects (ds ++ s.called s') := by
  have hconnections : SwitchboardEvent.connections (s.called s') = [] := by
    refine List.filterMap_eq_nil_iff.2 fun d hd => ?_
    obtain ⟨id, k, action, rfl⟩ := eq_of_mem_called hd
    rfl
  have hcurrent {es : List SwitchboardEvent} (hes : ∀ e ∈ es, e ∈ s.called s') (station : String)
      (id : Nat) :
      SwitchboardEvent.Current (ds ++ es) station id ↔ SwitchboardEvent.Current ds station id := by
    rw [SwitchboardEvent.Current,
      SwitchboardEvent.lasts_append fun e he => not_supersedes_of_mem_called (hes e he) station]
    refine or_iff_left fun ⟨e, he, hopened⟩ => ?_
    obtain ⟨id', k, action, rfl⟩ := eq_of_mem_called (hes e he)
    cases hopened
  refine ⟨ha.sound, ha.placed h.placed, fun k action => ?_, fun station id => ?_, fun u hu => ?_,
    ?_, fun id hid => ?_, ?_, h.current.append fun before id k action since he => ?_⟩
  · rw [ha.pending, h.pending, SwitchboardEvent.Awaits, SwitchboardEvent.Awaits,
      SwitchboardEvent.lasts_append fun d hd => not_settles_of_mem_called hd k]
    simp
  · rw [ha.online, h.online, hcurrent fun _ hd => hd]
  · rw [SwitchboardEvent.uniqueIds_append, List.mem_append] at hu
    rw [ha.seed]
    rcases hu with hu | hu
    · obtain ⟨n, hle, hn⟩ := h.numbered u hu
      exact ⟨n, hle.trans ha.issued, hn⟩
    · obtain ⟨n, -, hle, hn⟩ := ha.numbered u hu
      exact ⟨n, hle, hn⟩
  · rw [SwitchboardEvent.uniqueIds_append]
    refine nodup_append_of_numbered s.seed s.issued h.distinct ha.distinct h.numbered fun u hu => ?_
    obtain ⟨n, hlt, -, hn⟩ := ha.numbered u hu
    exact ⟨n, hlt, hn⟩
  · rw [SwitchboardEvent.connections_append, hconnections, List.append_nil] at hid
    exact ha.nextConnection ▸ h.fresh id hid
  · rw [SwitchboardEvent.connections_append, hconnections, List.append_nil]
    exact h.once
  · rw [hcurrent (fun e hmem => he ▸ List.mem_append_left _ hmem), ← h.online]
    exact ha.current id k action (he ▸ by simp)

end Reflects

theorem Reflects.new (seed : Nat) : ({ seed } : Switchboard).Reflects [] where
  sound := ⟨nofun, nofun⟩
  placed := nofun
  pending k action := iff_of_false nofun SwitchboardEvent.not_lasts_nil
  online station id := iff_of_false nofun SwitchboardEvent.not_lasts_nil
  numbered := List.forall_mem_nil _
  distinct := List.nodup_nil
  fresh := List.forall_mem_nil _
  once := List.nodup_nil
  current before id k action since he := by simp at he

end Switchboard

end CentralSystem
