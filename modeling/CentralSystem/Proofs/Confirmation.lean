import CentralSystem.Proofs.Calls

namespace CentralSystem

/-- A step of a hub, or a command that is sent beside its steps. -/
inductive CallStep where
  | hub (i : HubStep)
  | command (station : String) (c : Command)

namespace Hub

variable {h : Hub} {ds : List SwitchboardEvent}

def callStep (h : Hub) : CallStep → Hub
  | .hub i => h.step i
  | .command station c => h.setSwitchboard (h.plant.switchboard.give (station, c))

def runCalls (h : Hub) (os : List CallStep) : Hub := os.foldl callStep h

/-- What the history records of a step besides the Calls that are sent. -/
def marks (h : Hub) : CallStep → List SwitchboardEvent
  | .hub (.connect station) => [.opened station h.plant.switchboard.nextConnection]
  | .hub (.disconnect id) =>
    if (h.plant.switchboard.disconnect id).1 then
      ((h.plant.switchboard.connection? id).map (SwitchboardEvent.ended ·.station)).toList
    else []
  | .hub .closeAll => [.endedAll]
  | .hub (.receive _ id text) =>
    ((h.plant.switchboard.connection? id).bind (SwitchboardEvent.answer? ·.station text)).toList
  | _ => []

def callEvents (h : Hub) (o : CallStep) : List SwitchboardEvent :=
  h.marks o ++ h.plant.switchboard.called (h.callStep o).plant.switchboard

def history (h : Hub) : List CallStep → List SwitchboardEvent
  | [] => []
  | o :: os => h.callEvents o ++ (h.callStep o).history os

theorem quiet_receive_of_answer {id : Nat} {c : Connection}
    (hc : h.plant.switchboard.connection? id = some c) (now : Timestamp) {text : String} {f : Frame}
    (hf : Frame.parse text = .ok f) {reply : Reply} (hreply : Reply.ofFrame? f = some reply) :
    (h.receive now id text).quiet = (h.setSwitchboard { h.plant.switchboard with
      pending := h.plant.switchboard.pending.erase ⟨c.station, reply.uniqueId⟩ }).quiet := by
  rw [receive_eq hc now hf]
  cases f with
  | call uniqueId action payload => cases hreply
  | callResult uniqueId payload =>
    obtain rfl := Option.some.inj hreply
    exact h.quiet_receiveFrame_callResult now id c.station uniqueId payload
  | callError uniqueId code description details =>
    obtain rfl := Option.some.inj hreply
    rfl

section Steps

variable (hs : h.plant.switchboard.Sound)
include hs

theorem asks_refuse (id : Nat) (station : String) (e : Error) :
    h.plant.switchboard.Asks (h.refuse id station e).plant.switchboard := by
  rw [refuse]
  split
  · next s hreply =>
    obtain ⟨c, uniqueId, hsent⟩ := Switchboard.send_of_reply hreply
    exact Switchboard.asks_answer hs (Frame.legible_refusal uniqueId e.code e.message) rfl hsent
  · exact .refl hs

variable (hp : h.plant.switchboard.Placed) (hn : h.plant.switchboard.Numbered)
include hp hn

theorem Charges.asks {now : Timestamp} {h' : Hub} (hc : Charges now h h') :
    h.plant.switchboard.Asks h'.plant.switchboard := by
  obtain ⟨es, -, he⟩ := hc
  exact he ▸ Switchboard.asks_giveAll hs hp hn es

theorem asks_receiveCall (now : Timestamp) (id : Nat) (station action : String) (payload : Json) :
    h.plant.switchboard.Asks (h.receiveCall now id station action payload).plant.switchboard := by
  rw [receiveCall]
  split
  · next e _ => exact asks_refuse (h := h.note _) hs id station e
  · next r _ =>
    dsimp only
    split
    · next s hreply =>
      obtain ⟨c, uniqueId, hsent⟩ := Switchboard.send_of_reply hreply
      have hreplied := Switchboard.asks_answer hs (Response.legible_frame _ uniqueId) rfl hsent
      exact hreplied.trans (Charges.asks (h := Hub.setSwitchboard _ s) hreplied.sound
        (hreplied.placed hp) (hreplied.of_numbered hn) (charges_followUp now station r))
    · exact .refl hs

end Steps

theorem switchboard_elim_bind {result : Except Error (String × Switchboard)} :
    ((result >>= fun sent => .ok (sent.1, h.setSwitchboard sent.2)).toOption.elim h
      (·.2)).plant.switchboard = result.toOption.elim h.plant.switchboard (·.2) := by
  cases result <;> rfl

section Reflects

variable (ht : h.plant.switchboard.Reflects ds)
include ht

theorem reflects_of_asks {o : CallStep} {s : Switchboard}
    (he : (h.callStep o).plant.switchboard = s) (ha : h.plant.switchboard.Asks s)
    (hmarks : h.marks o = []) :
    (h.callStep o).plant.switchboard.Reflects (ds ++ h.callEvents o) := by
  rw [callEvents, hmarks, List.nil_append, he]
  exact ht.asks ha

omit ht in
theorem reflects_of_silence {o : CallStep} {s : Switchboard} {ds' : List SwitchboardEvent}
    (he : (h.callStep o).plant.switchboard = s) (hs : s.Reflects ds')
    (hmarks : ds ++ h.marks o = ds')
    (houtbox : ∀ id, s.outbox id = h.plant.switchboard.outbox id ∨ s.outbox id = []) :
    (h.callStep o).plant.switchboard.Reflects (ds ++ h.callEvents o) := by
  rw [callEvents, he, Switchboard.called_eq_nil_of_outbox houtbox, List.append_nil, hmarks]
  exact hs

theorem asks_command (station : String) (c : Command) :
    h.plant.switchboard.Asks (h.plant.switchboard.give (station, c)) :=
  Switchboard.asks_give ht.sound ht.placed ht.numbered_pending (station, c)

theorem reflects_receive (now : Timestamp) (id : Nat) (text : String) :
    (h.receive now id text).plant.switchboard.Reflects
      (ds ++ h.callEvents (.hub (.receive now id text))) := by
  cases hc : h.plant.switchboard.connection? id with
  | none =>
    have hmarks : h.marks (.hub (.receive now id text)) = [] := by rw [marks, hc]; rfl
    have hsame : h.receive now id text = h := by rw [receive, hc]
    exact reflects_of_asks ht (congrArg (·.plant.switchboard) hsame) (.refl ht.sound) hmarks
  | some c =>
    have hmarks : h.marks (.hub (.receive now id text)) =
        (SwitchboardEvent.answer? c.station text).toList := by rw [marks, hc]; rfl
    have hanswered {f : Frame} {reply : Reply} (hf : Frame.parse text = .ok f)
        (hreply : Reply.ofFrame? f = some reply) :
        (h.receive now id text).plant.switchboard.Reflects
          (ds ++ h.callEvents (.hub (.receive now id text))) := by
      have hsettled := switchboard_eq_of_quiet (quiet_receive_of_answer hc now hf hreply)
      have hanswer : SwitchboardEvent.answer? c.station text =
          some (.answered ⟨c.station, reply.uniqueId⟩) := by
        rw [SwitchboardEvent.answer?, hf, Except.toOption, Option.bind_some, hreply]
        rfl
      exact reflects_of_silence (o := .hub (.receive now id text)) hsettled
        (ht.settle ⟨c.station, reply.uniqueId⟩) (by rw [hmarks, hanswer]; rfl) fun _ => .inl rfl
    cases hf : Frame.parse text with
    | error e =>
      have hsame := switchboard_eq_of_quiet (quiet_receive_of_error hc now hf)
      exact reflects_of_asks ht (o := .hub (.receive now id text)) hsame (.refl ht.sound)
        (by rw [hmarks, SwitchboardEvent.answer?, hf]; rfl)
    | ok f =>
      cases f with
      | call uniqueId action payload =>
        have hnoted := Switchboard.asks_noteCall ht.sound id uniqueId
        have hreceived := asks_receiveCall
          (h := h.setSwitchboard (h.plant.switchboard.noteCall id uniqueId)) hnoted.sound
          (hnoted.placed ht.placed) (hnoted.of_numbered ht.numbered_pending) now id c.station action
          payload
        exact reflects_of_asks ht (congrArg (·.plant.switchboard) (receive_eq hc now hf))
          (hnoted.trans hreceived) (by rw [hmarks, SwitchboardEvent.answer?, hf]; rfl)
      | callResult uniqueId payload => exact hanswered hf rfl
      | callError uniqueId code description details => exact hanswered hf rfl

theorem reflects_callStep (o : CallStep) :
    (h.callStep o).plant.switchboard.Reflects (ds ++ h.callEvents o) := by
  have hs := ht.sound
  have hp := ht.placed
  have hn := ht.numbered_pending
  cases o with
  | command station c => exact reflects_of_asks ht rfl (asks_command ht station c) rfl
  | hub i =>
    cases i with
    | connect station =>
      exact reflects_of_silence rfl (ht.connect station) rfl fun id =>
        .inl (hs.outbox_connect station id)
    | disconnect id =>
      have houtbox (id' : Nat) : (h.plant.switchboard.disconnect id).2.outbox id' =
          h.plant.switchboard.outbox id' := by
        rw [Switchboard.outbox, Switchboard.outbox, Switchboard.connection?,
          Switchboard.connection?, Switchboard.connections_disconnect]
      rcases Switchboard.disconnect_cases hs hp id with ⟨c, hc, -, he⟩ | ⟨-, he⟩
      · have hended : (h.plant.switchboard.disconnect id).1 = true := congrArg Prod.fst he
        have hmarks : h.marks (.hub (.disconnect id)) = [.ended c.station] := by
          rw [marks, if_pos hended, hc]
          rfl
        exact reflects_of_silence rfl (ht.disconnect hc hended) (congrArg (ds ++ ·) hmarks)
          fun id' => .inl (houtbox id')
      · have hkept : (h.plant.switchboard.disconnect id).1 = false := congrArg Prod.fst he
        have hmarks : h.marks (.hub (.disconnect id)) = [] := by
          rw [marks, if_neg (Bool.eq_false_iff.1 hkept)]
        exact reflects_of_asks ht (congrArg Prod.snd he) (.refl hs) hmarks
    | closeAll => exact reflects_of_silence rfl ht.closeAll rfl fun _ => .inl rfl
    | hangUp id =>
      refine reflects_of_silence (s := h.plant.switchboard.hangUp id) rfl
        (ht.still (hs.hangUp id) (hp.hangUp id) rfl rfl rfl rfl rfl) (List.append_nil ds)
        fun id' => ?_
      rw [Switchboard.outbox_hangUp]
      exact (ite_eq_or_eq _ _ _).symm
    | flush =>
      exact reflects_of_silence rfl (ht.still hs.flush hp.flush rfl rfl rfl rfl rfl)
        (List.append_nil ds) fun id => .inr (h.plant.switchboard.outbox_flush id)
    | receive now id text => exact reflects_receive ht now id text
    | handler now w =>
      exact reflects_of_asks ht rfl (Charges.asks hs hp hn (charges_handlerStep now w)) rfl
    | applyDefault now station =>
      cases hplant : h.plant.applyDefault now station with
      | error e => exact reflects_of_asks ht (by rw [callStep, step, hplant]; rfl) (.refl hs) rfl
      | ok plant =>
        exact reflects_of_asks ht (by rw [callStep, step, hplant]; rfl)
          (Charges.asks hs hp hn (.applyDefault hplant)) rfl
    | remoteStart station idTag connector =>
      by_cases hconnector : connector = some 0
      · have hrefused : (h.callStep (.hub (.remoteStart station idTag connector))) = h := by
          rw [callStep, step, remoteStart, if_pos hconnector]
          rfl
        exact reflects_of_asks ht (congrArg (·.plant.switchboard) hrefused) (.refl hs) rfl
      · refine reflects_of_asks ht ?_ (asks_command ht station (.remoteStart idTag connector)) rfl
        rw [callStep, step, remoteStart, if_neg hconnector, Switchboard.give]
        exact switchboard_elim_bind
    | remoteStop station transaction =>
      refine reflects_of_asks ht ?_
        (asks_command ht station (.remoteStopTransaction { transactionId := transaction })) rfl
      rw [callStep, step, remoteStop, Switchboard.give]
      exact switchboard_elim_bind
    | tick =>
      exact reflects_of_asks ht (switchboard_foldl_trigger _)
        (Switchboard.asks_giveAll hs hp hn _) rfl
    | drain => exact reflects_of_asks ht rfl (.refl hs) rfl
    | records ledger => exact reflects_of_asks ht rfl (.refl hs) rfl

theorem reflects_runCalls (os : List CallStep) :
    (h.runCalls os).plant.switchboard.Reflects (ds ++ h.history os) := by
  induction os generalizing h ds with
  | nil => exact (List.append_nil ds).symm ▸ ht
  | cons o rest ih =>
    rw [history, ← List.append_assoc]
    exact ih (reflects_callStep ht o)

end Reflects

theorem reflects_start {settings : Settings} {storage : Storage} {seed : Nat}
    (hstart : start settings storage seed = .ok h) : h.plant.switchboard.Reflects [] := by
  obtain ⟨ledger, -, hh⟩ := bind_eq_ok.1 hstart
  obtain rfl := Except.ok.inj hh
  exact .new seed

end Hub

/-- However a hub is run, its Calls have different unique ids, and an answer takes a Call off the
list exactly when this Call was sent to the charge point that answers and has not been settled
since: not by an earlier answer, not by the end of the session, not by the end of all. What is taken
off names the action of the Call. All else stays as it is, so that nothing changes because of an
answer by another charge point, to a Call that was not sent, or for the second time. -/
theorem answer_confirms_call {settings : Settings} {storage : Storage} {seed : Nat} {h₀ : Hub}
    (hstart : Hub.start settings storage seed = .ok h₀) (os : List CallStep) {id : Nat}
    {c : Connection} (hc : (h₀.runCalls os).plant.switchboard.connection? id = some c)
    (now : Timestamp) {text : String} {f : Frame} {reply : Reply} (hf : Frame.parse text = .ok f)
    (hreply : Reply.ofFrame? f = some reply) :
    let h := h₀.runCalls os
    let h' := h.receive now id text
    let ds := h₀.history os
    let key : CallKey := ⟨c.station, reply.uniqueId⟩
    (SwitchboardEvent.uniqueIds ds).Nodup ∧
    (∀ k action, ((∃ a, h.plant.switchboard.pending.get? k = some a ∧ a.name = action) ∧
      h'.plant.switchboard.pending.get? k = none) ↔
        k = key ∧ SwitchboardEvent.Awaits ds key action) ∧
    h'.quiet = (h.setSwitchboard { h.plant.switchboard with
      pending := h.plant.switchboard.pending.erase key }).quiet ∧
    ((∀ action, ¬ SwitchboardEvent.Awaits ds key action) → h'.quiet = h.quiet) ∧
    ((∃ id' k action, .called id' k action ∈ ds ∧ k.uniqueId = reply.uniqueId ∧
      k.station ≠ c.station) → h'.quiet = h.quiet) ∧
    (reply.uniqueId ∉ SwitchboardEvent.uniqueIds ds → h'.quiet = h.quiet) ∧
    ∀ before id' action since, ds = before ++ .called id' key action :: since →
      .answered key ∈ since → h'.quiet = h.quiet := by
  intro h h' ds key
  have ht : h.plant.switchboard.Reflects ds := Hub.reflects_runCalls (Hub.reflects_start hstart) os
  have hsettled : h'.quiet = (h.setSwitchboard { h.plant.switchboard with
      pending := h.plant.switchboard.pending.erase key }).quiet :=
    Hub.quiet_receive_of_answer hc now hf hreply
  have hpending (k : CallKey) : h'.plant.switchboard.pending.get? k =
      if k = key then none else h.plant.switchboard.pending.get? k := by
    rw [Hub.switchboard_eq_of_quiet hsettled]
    exact Table.get?_erase ..
  have hidle (hnone : ∀ action, ¬ SwitchboardEvent.Awaits ds key action) : h'.quiet = h.quiet := by
    have habsent : h.plant.switchboard.pending.get? key = none := by
      by_contra hsome
      obtain ⟨a, ha⟩ := Option.ne_none_iff_exists'.1 hsome
      exact hnone a.name ((ht.pending key a.name).1 (by rw [ha]; rfl))
    rw [hsettled, Table.erase_of_get?_eq_none habsent]
    rfl
  refine ⟨ht.distinct, fun k action => ?_, hsettled, hidle,
    fun hother => hidle fun action hawaits => ?_, fun hunknown => hidle fun action hawaits => ?_,
    fun before id' action since he hanswered => hidle fun action' hawaits => ?_⟩
  · rw [hpending, ← ht.pending, Option.map_eq_some_iff]
    constructor
    · rintro ⟨⟨a, ha, hname⟩, hgone⟩
      split at hgone
      · next he => exact ⟨he, a, he ▸ ha, hname⟩
      · rw [ha] at hgone
        cases hgone
    · rintro ⟨rfl, a, ha, hname⟩
      exact ⟨⟨a, ha, hname⟩, if_pos rfl⟩
  · obtain ⟨id', k, action', hcalled, hsame, hstation⟩ := hother
    obtain ⟨id'', hown⟩ := hawaits.called_mem
    have hkey : k = key := SwitchboardEvent.key_eq_of_uniqueId_eq ht.distinct hcalled hown hsame
    exact hstation (congrArg CallKey.station hkey)
  · obtain ⟨id', hcalled⟩ := hawaits.called_mem
    exact hunknown (SwitchboardEvent.uniqueId_mem hcalled)
  · rw [he] at hawaits
    exact SwitchboardEvent.not_awaits_of_settled (he ▸ ht.distinct) ⟨_, hanswered, .inl rfl⟩
      action' hawaits

namespace CallStep

/-- The charge point in the north is asked to start, and connects anew before its old connection is
cleaned up. -/
def reconnection : List CallStep :=
  (HubStep.remoteStarts "tag" ++ [HubStep.connect "north", HubStep.disconnect 1]).map hub

end CallStep

theorem Hub.runCalls_reconnection :
    let s := (Hub.idleDepot.runCalls CallStep.reconnection).plant.switchboard
    ((s.connection? 1).map (·.station) = some "north" ∧
      (s.connection? 2).map (·.station) = some "south" ∧ s.online.get? "north" = some 3) ∧
    s.pending.get? ⟨"north", Switchboard.uniqueId 0 1⟩ = some .remoteStartTransaction ∧
    Hub.idleDepot.history CallStep.reconnection =
      [.opened "north" 1, .opened "south" 2,
        .called 1 ⟨"north", Switchboard.uniqueId 0 1⟩ "RemoteStartTransaction",
        .opened "north" 3] := by
  decide +kernel

theorem Hub.history_reconnection : Hub.idleDepot.history CallStep.reconnection =
    [.opened "north" 1, .opened "south" 2,
      .called 1 ⟨"north", Switchboard.uniqueId 0 1⟩ "RemoteStartTransaction",
      .opened "north" 3] :=
  Hub.runCalls_reconnection.2.2

theorem answer_confirms_call_depot :
    let h := Hub.idleDepot.runCalls CallStep.reconnection
    let key : CallKey := ⟨"north", Switchboard.uniqueId 0 1⟩
    let f := Frame.callResult key.uniqueId (.object [])
    Hub.start Hub.depot.settings { database := .depot } 0 = .ok .idleDepot ∧
      (h.plant.switchboard.connection? 1).map (·.station) = some "north" ∧
      (h.plant.switchboard.connection? 2).map (·.station) = some "south" ∧
      Frame.parse f.render = .ok f ∧ Reply.ofFrame? f = some ⟨key.uniqueId, none⟩ ∧
      (∃ a, h.plant.switchboard.pending.get? key = some a ∧ a.name = "RemoteStartTransaction") ∧
      (h.receive .epoch 1 f.render).plant.switchboard.pending.get? key = none ∧
      (h.receive .epoch 2 f.render).quiet = h.quiet := by
  intro h key f
  obtain ⟨⟨hnorth, hsouth, -⟩, -⟩ := Hub.runCalls_reconnection
  have hread : Frame.parse f.render = .ok f :=
    Frame.parse_render ⟨⟨rfl, .object .nil (by simp)⟩, .object (by simp) (by simp)⟩
  obtain ⟨c, hc, hstation⟩ := Option.map_eq_some_iff.1 hnorth
  obtain ⟨c', hc', hstation'⟩ := Option.map_eq_some_iff.1 hsouth
  obtain ⟨-, hremoved, -⟩ := answer_confirms_call Hub.start_depot CallStep.reconnection hc .epoch
    hread rfl
  obtain ⟨-, -, -, -, hother, -⟩ := answer_confirms_call Hub.start_depot CallStep.reconnection hc'
    .epoch hread rfl
  have hawaits : SwitchboardEvent.Awaits (Hub.idleDepot.history CallStep.reconnection) key
      "RemoteStartTransaction" := by
    rw [Hub.history_reconnection]
    refine ⟨[.opened "north" 1, .opened "south" 2], _, _, rfl, ⟨1, rfl⟩, ?_⟩
    simp [SwitchboardEvent.Settles]
  have hh : Hub.idleDepot.runCalls CallStep.reconnection = h := rfl
  rw [hstation, hh] at hremoved
  rw [hh] at hother
  obtain ⟨hbefore, hafter⟩ := (hremoved key _).2 ⟨rfl, hawaits⟩
  have hsent : ∃ id' k action,
      .called id' k action ∈ Hub.idleDepot.history CallStep.reconnection ∧
        k.uniqueId = key.uniqueId ∧ k.station ≠ c'.station := by
    refine ⟨1, key, "RemoteStartTransaction", ?_, rfl, ?_⟩
    · rw [Hub.history_reconnection]
      simp [key]
    · rw [hstation']
      decide
  exact ⟨Hub.start_depot, hnorth, hsouth, hread, rfl, hbefore, hafter, hother hsent⟩

/-- However a hub is run, a Call is on the list exactly when it was sent and has not been settled
since. It was sent over the session that its charge point had; the charge point is still on line,
but over the same connection only if it was not connected anew since. -/
theorem backlog_runCalls {settings : Settings} {storage : Storage} {seed : Nat} {h₀ : Hub}
    (hstart : Hub.start settings storage seed = .ok h₀) (os : List CallStep) (k : CallKey)
    (action : String) :
    let s := (h₀.runCalls os).plant.switchboard
    let ds := h₀.history os
    ((∃ a, s.pending.get? k = some a ∧ a.name = action) ↔ SwitchboardEvent.Awaits ds k action) ∧
    ∀ before id since, ds = before ++ .called id k action :: since →
      (∀ d ∈ since, ¬ d.Settles k) → SwitchboardEvent.Current before k.station id ∧
        ∃ id', s.online.get? k.station = some id' ∧
          (id' = id ↔ ∀ id'', .opened k.station id'' ∉ since) := by
  intro s ds
  have ht : s.Reflects ds := Hub.reflects_runCalls (Hub.reflects_start hstart) os
  refine ⟨by rw [← ht.pending, Option.map_eq_some_iff], fun before id since he hsince => ?_⟩
  have hsent : SwitchboardEvent.Current before k.station id := ht.current before id k action since he
  have hgoes : ∀ d ∈ SwitchboardEvent.called id k action :: since,
      d ≠ .ended k.station ∧ d ≠ .endedAll := by
    refine List.forall_mem_cons.2 ⟨⟨nofun, nofun⟩, fun d hd => ⟨?_, ?_⟩⟩
    · exact fun hended => hsince d hd (.inr (.inl hended))
    · exact fun hended => hsince d hd (.inr (.inr hended))
  obtain ⟨id', hid', hlast⟩ := hsent.append hgoes
  refine ⟨hsent, id', (ht.online k.station id').2 (he ▸ hid'), ?_, fun hnone => ?_⟩
  · rintro rfl id'' hopened
    -- a connection is opened once, so the one of the Call cannot be the newer one
    have honce := ht.once
    rw [he, SwitchboardEvent.connections_append, List.nodup_append] at honce
    rcases hlast with hagain | ⟨-, hnone⟩
    · exact honce.2.2 id' (SwitchboardEvent.connection_mem hsent.opened_mem) id'
        (SwitchboardEvent.connection_mem hagain) rfl
    · exact hnone id'' (List.mem_cons_of_mem _ hopened)
  · rcases hlast with hopened | ⟨hsame, -⟩
    · rcases List.mem_cons.1 hopened with hopened | hopened
      · cases hopened
      · exact absurd hopened (hnone id')
    · exact hsame

theorem backlog_runCalls_depot :
    let s := (Hub.idleDepot.runCalls CallStep.reconnection).plant.switchboard
    let key : CallKey := ⟨"north", Switchboard.uniqueId 0 1⟩
    Hub.start Hub.depot.settings { database := .depot } 0 = .ok .idleDepot ∧
      (∃ a, s.pending.get? key = some a ∧ a.name = "RemoteStartTransaction") ∧
      SwitchboardEvent.Current [.opened "north" 1, .opened "south" 2] "north" 1 ∧
      ∃ id, s.online.get? "north" = some id ∧ id ≠ 1 := by
  intro s key
  obtain ⟨hlisted, hsession⟩ := backlog_runCalls Hub.start_depot CallStep.reconnection key
    "RemoteStartTransaction"
  rw [Hub.history_reconnection] at hlisted hsession
  have hsince : ∀ d ∈ [SwitchboardEvent.opened "north" 3], ¬ d.Settles key := by
    simp [SwitchboardEvent.Settles]
  obtain ⟨hsent, id, honline, hsame⟩ :=
    hsession [.opened "north" 1, .opened "south" 2] 1 [.opened "north" 3] rfl hsince
  have hawaits := hlisted.2 ⟨[.opened "north" 1, .opened "south" 2], _, [.opened "north" 3], rfl,
    ⟨1, rfl⟩, hsince⟩
  exact ⟨Hub.start_depot, hawaits, hsent, id, honline, fun he => hsame.1 he 3 List.mem_cons_self⟩

/-- A Call that was sent over a session that was replaced stays on the list. -/
theorem replaced_session_keeps_call :
    ¬ ∀ os k a, (Hub.idleDepot.runCalls os).plant.switchboard.pending.get? k = some a →
      ∃ id action, (Hub.idleDepot.runCalls os).plant.switchboard.online.get? k.station = some id ∧
        .called id k action ∈ Hub.idleDepot.history os := by
  intro hlive
  obtain ⟨⟨-, -, hnewer⟩, hpending, hhistory⟩ := Hub.runCalls_reconnection
  obtain ⟨id, action, honline, hcalled⟩ := hlive CallStep.reconnection
    ⟨"north", Switchboard.uniqueId 0 1⟩ .remoteStartTransaction hpending
  rw [hnewer] at honline
  obtain rfl := Option.some.inj honline
  rw [hhistory] at hcalled
  simp at hcalled

end CentralSystem
