import CentralSystem.Proofs.Dispatch

namespace CentralSystem

/-- A step of a hub: something comes in from its charge points, its operator or its timer, or it
works off what is queued. -/
inductive HubStep where
  | connect (station : String)
  | disconnect (connection : Nat)
  | hangUp (connection : Nat)
  | closeAll
  | flush
  | receive (now : Timestamp) (connection : Nat) (text : String)
  | handler (now : Timestamp) (w : HandlerStep)
  | applyDefault (now : Timestamp) (station : String)
  | remoteStart (station idTag : String) (connector : Option UInt32)
  | remoteStop (station : String) (transaction : Int32)
  | tick
  | drain
  /-- Something else changes what is in memory or on record, or breaks part of the storage. -/
  | records (ledger : Ledger)

namespace HubStep

/-- Whether what is queued on a connection is written out, or lost. -/
def empties (id : Nat) : HubStep → Bool
  | hangUp id' => id' == id
  | flush => true
  | _ => false

end HubStep

/-- An answer to a Call: its unique id, and the code if it is a refusal. -/
structure Reply where
  uniqueId : String
  refusal : Option String
deriving DecidableEq

namespace Reply

def ofFrame? : Frame → Option Reply
  | .call .. => none
  | .callResult uniqueId _ => some ⟨uniqueId, none⟩
  | .callError uniqueId code .. => some ⟨uniqueId, some code⟩

/-- The answers among these texts, in order. -/
def among (texts : List String) : List Reply :=
  texts.filterMap fun t => (Frame.parse t).toOption.bind ofFrame?

def due? (text : String) : Option Reply :=
  match Frame.parse text with
  | .ok (.call uniqueId action payload) =>
    match Request.decode action payload with
    | .ok _ => some ⟨uniqueId, none⟩
    | .error _ => some ⟨uniqueId, some (Request.refusalCode action)⟩
  | _ => none

theorem due?_of_valid {text uniqueId action : String} {payload : Json} {r : Request}
    (read : Frame.parse text = .ok (.call uniqueId action payload))
    (valid : Request.decode action payload = .ok r) : due? text = some ⟨uniqueId, none⟩ := by
  rw [due?, read]
  dsimp only
  rw [valid]

theorem due?_of_invalid {text uniqueId action : String} {payload : Json} {e : Error}
    (read : Frame.parse text = .ok (.call uniqueId action payload))
    (invalid : Request.decode action payload = .error e) :
    due? text = some ⟨uniqueId, some (Request.refusalCode action)⟩ := by
  rw [due?, read]
  dsimp only
  rw [invalid]

def on (id : Nat) (reply : Option Reply) (id' : Nat) : List Reply :=
  if id' = id then reply.toList else []

theorem on_none (id : Nat) : on id none = fun _ => [] := by
  funext id'
  rw [on, Option.toList_none, ite_self]

theorem among_append (texts texts' : List String) :
    among (texts ++ texts') = among texts ++ among texts' := List.filterMap_append

theorem among_calls {texts : List String} (h : ∀ t ∈ texts, IsCall t) : among texts = [] := by
  refine List.filterMap_eq_nil_iff.2 fun t ht => ?_
  obtain ⟨uniqueId, action, payload, hparse⟩ := h t ht
  rw [hparse]
  rfl

theorem among_render {f : Frame} (h : f.Legible) : among [f.render] = (ofFrame? f).toList := by
  rw [among, List.filterMap_cons, Frame.parse_render h]
  cases hf : ofFrame? f <;> simp [Except.toOption, hf]

end Reply

namespace Switchboard

variable {s s' s'' : Switchboard}

/-- Frames were queued in between, and these are the answers among them on each connection. -/
structure Queues (s s' : Switchboard) (replies : Nat → List Reply) : Prop where
  sound : s'.Sound
  outbox : ∀ id, ∃ texts, s'.outbox id = s.outbox id ++ texts ∧
    (∀ t ∈ texts, ∃ f, Frame.parse t = .ok f) ∧ Reply.among texts = replies id

namespace Queues

theorem of_outbox (hs : s'.Sound) (h : ∀ id, s'.outbox id = s.outbox id) :
    s.Queues s' fun _ => [] :=
  ⟨hs, fun id => ⟨[], by rw [h, List.append_nil], by simp, rfl⟩⟩

theorem trans {replies replies' : Nat → List Reply} (h : s.Queues s' replies)
    (h' : s'.Queues s'' replies') : s.Queues s'' fun id => replies id ++ replies' id where
  sound := h'.sound
  outbox id := by
    obtain ⟨texts, he, hf, hr⟩ := h.outbox id
    obtain ⟨texts', he', hf', hr'⟩ := h'.outbox id
    exact ⟨texts ++ texts', by rw [he', he, List.append_assoc],
      List.forall_mem_append.2 ⟨hf, hf'⟩, by rw [Reply.among_append, hr, hr']⟩

end Queues

theorem Calls.queues (h : s.Calls s') (hs : s.Sound) : s.Queues s' fun _ => [] where
  sound := h.sound hs
  outbox id := by
    obtain ⟨texts, hcalls, he⟩ := h.connection id
    have ho := outbox_of_connection he
    cases hc : s.connection? id with
    | none => exact ⟨[], by rw [ho, Switchboard.outbox, hc]; rfl, by simp, rfl⟩
    | some c =>
      refine ⟨texts, by rw [ho, Switchboard.outbox, hc]; rfl, fun t ht => ?_,
        Reply.among_calls hcalls⟩
      obtain ⟨uniqueId, action, payload, hparse⟩ := hcalls t ht
      exact ⟨_, hparse⟩

theorem queues_answered (hs : s.Sound) {id : Nat} {c : Connection}
    (hc : s.connection? id = some c) {answer : Frame} (ha : answer.Legible) :
    s.Queues (s.answered c answer) (Reply.on id (Reply.ofFrame? answer)) := by
  refine ⟨hs.answered hc answer, fun id' => ?_⟩
  obtain rfl : c.id = id := hs.id hc
  by_cases he : id' = c.id
  · subst he
    refine ⟨[answer.render], ?_, fun t ht => ?_, ?_⟩
    · rw [outbox, connection?_answered, if_pos rfl, outbox, hc]
      rfl
    · exact ⟨answer, List.mem_singleton.1 ht ▸ Frame.parse_render ha⟩
    · exact (Reply.among_render ha).trans (if_pos rfl).symm
  · refine ⟨[], ?_, by simp, (if_neg he).symm⟩
    rw [outbox, connection?_answered, if_neg he, outbox, List.append_nil]

section Steps

variable (s)

theorem connection?_flush (id : Nat) :
    s.flush.connection? id = (s.connection? id).map fun c => { c with outbox := [] } := by
  have hfold := s.connections.get?_foldl_modify s.connections.keys
    (f := fun c => { c with outbox := [] }) (fun _ => rfl) id
  refine hfold.trans ?_
  rw [connection?]
  cases h : s.connections.get? id with
  | none => rfl
  | some c => simp [Table.mem_keys_iff.2 ⟨c, h⟩]

theorem outbox_flush (id : Nat) : s.flush.outbox id = [] := by
  rw [outbox_of_connection (s.connection?_flush id)]
  cases s.connection? id <;> rfl

theorem connection?_hangUp (id id' : Nat) :
    (s.hangUp id).connection? id' = (s.connection? id').map fun c =>
      if id' = id then { c with isOpen := false, outbox := [] } else c :=
  Table.get?_modify_eq_map ..

theorem outbox_hangUp (id id' : Nat) :
    (s.hangUp id).outbox id' = if id' = id then [] else s.outbox id' := by
  rw [outbox_of_connection (s.connection?_hangUp id id'), outbox]
  cases s.connection? id' with
  | none => simp
  | some c => by_cases h : id' = id <;> simp [h]

theorem connections_disconnect (id : Nat) : (s.disconnect id).2.connections = s.connections := by
  unfold disconnect
  split
  · split <;> rfl
  · rfl

theorem nextConnection_disconnect (id : Nat) :
    (s.disconnect id).2.nextConnection = s.nextConnection := by
  unfold disconnect
  split
  · split <;> rfl
  · rfl

theorem outbox_noteCall (id : Nat) (uniqueId : String) (id' : Nat) :
    (s.noteCall id uniqueId).outbox id' = s.outbox id' := by
  rw [outbox_of_connection (connection?_noteCall id uniqueId id'), outbox]
  cases s.connection? id' with
  | none => rfl
  | some c => by_cases h : id' = id <;> simp [h]

end Steps

theorem connection?_connect (station : String) (id : Nat) :
    (s.connect station).2.connection? id =
      if id = s.nextConnection then some { id := s.nextConnection, station } else s.connection? id :=
  Table.get?_insert ..

namespace Sound

variable (hs : s.Sound)
include hs

theorem connect (station : String) : (s.connect station).2.Sound := by
  constructor
  · intro id c hc
    rw [connection?_connect] at hc
    split at hc
    · next he =>
      obtain rfl := Option.some.inj hc
      exact he.symm
    · exact hs.id hc
  · intro id c hc
    rw [connection?_connect] at hc
    split at hc
    · next he => exact he ▸ Nat.lt_succ_self _
    · exact Nat.lt_succ_of_lt (hs.fresh hc)

theorem outbox_connect (station : String) (id : Nat) :
    (s.connect station).2.outbox id = s.outbox id := by
  rw [outbox, connection?_connect, outbox]
  split
  · next he =>
    cases hc : s.connection? id with
    | none => rfl
    | some c => exact absurd (hs.fresh hc) (he ▸ Nat.lt_irrefl _)
  · rfl

theorem noteCall (id : Nat) (uniqueId : String) : (s.noteCall id uniqueId).Sound :=
  hs.of_connection (connection?_noteCall id uniqueId) (fun _ _ => by split <;> rfl) rfl

theorem hangUp (id : Nat) : (s.hangUp id).Sound :=
  hs.of_connection (s.connection?_hangUp id) (fun _ _ => by split <;> rfl) rfl

theorem flush : s.flush.Sound :=
  hs.of_connection (f := fun _ c => { c with outbox := [] }) s.connection?_flush
    (fun _ _ => rfl) rfl

theorem queues_of_connections (hc : s'.connections = s.connections)
    (hn : s'.nextConnection = s.nextConnection) : s.Queues s' fun _ => [] := by
  have he (id : Nat) : s'.connection? id = s.connection? id := by
    rw [connection?, connection?, hc]
  refine .of_outbox (hs.of_connection (f := fun _ c => c) ?_ (fun _ _ => rfl) hn) fun id => ?_
  · intro id
    rw [he, Option.map_id']
  · rw [outbox, he, outbox]

theorem queues_connect (station : String) : s.Queues (s.connect station).2 fun _ => [] :=
  .of_outbox (hs.connect station) (hs.outbox_connect station)

theorem queues_disconnect (id : Nat) : s.Queues (s.disconnect id).2 fun _ => [] :=
  hs.queues_of_connections (s.connections_disconnect id) (s.nextConnection_disconnect id)

theorem queues_noteCall (id : Nat) (uniqueId : String) :
    s.Queues (s.noteCall id uniqueId) fun _ => [] :=
  .of_outbox (hs.noteCall id uniqueId) (s.outbox_noteCall id uniqueId)

end Sound

end Switchboard

namespace Hub

variable {h h' : Hub}

theorem switchboard_eq_of_quiet (hq : h'.quiet = h.quiet) :
    h'.plant.switchboard = h.plant.switchboard :=
  congrArg (fun h => h.plant.switchboard) hq

theorem Dispatch.queues {c : Connection} {text : String} (hd : h.Dispatch c text h')
    (hs : h.plant.switchboard.Sound) {id : Nat} (hc : h.plant.switchboard.connection? id = some c) :
    h.plant.switchboard.Queues h'.plant.switchboard (Reply.on id (Reply.due? text)) := by
  have hanswer {answer : Frame} (ha : answer.Legible)
      (hdue : Reply.due? text = Reply.ofFrame? answer)
      (hcalls : (h.plant.switchboard.answered c answer).Calls h'.plant.switchboard) :
      h.plant.switchboard.Queues h'.plant.switchboard (Reply.on id (Reply.due? text)) := by
    have hq := (Switchboard.queues_answered hs hc ha).trans (hcalls.queues (hs.answered hc answer))
    simpa only [List.append_nil, hdue] using hq
  cases hd with
  | dropped e unread same =>
    have hdue : Reply.due? text = none := by rw [Reply.due?, unread]
    rw [hdue, Reply.on_none, switchboard_eq_of_quiet same]
    exact hs.queues_of_connections rfl rfl
  | settled uniqueId read same =>
    have hdue : Reply.due? text = none := by
      rcases read with ⟨payload, read⟩ | ⟨code, description, details, read⟩
      · rw [Reply.due?, read]
      · rw [Reply.due?, read]
    rw [hdue, Reply.on_none, switchboard_eq_of_quiet same]
    exact hs.queues_of_connections rfl rfl
  | refused uniqueId action payload e read invalid same =>
    refine hanswer (Frame.legible_refusal uniqueId _ e.message)
      (Reply.due?_of_invalid read invalid) ?_
    rw [switchboard_eq_of_quiet same]
    exact .refl _
  | answered uniqueId action payload r result read valid legible calls =>
    exact hanswer legible (Reply.due?_of_valid read valid) calls

theorem queues_receive_of_closed (hs : h.plant.switchboard.Sound) {id : Nat} {c : Connection}
    (hc : h.plant.switchboard.connection? id = some c) (hclosed : c.isOpen = false)
    (now : Timestamp) (text : String) :
    h.plant.switchboard.Queues (h.receive now id text).plant.switchboard fun _ => [] := by
  cases hf : Frame.parse text with
  | error e =>
    have he := switchboard_eq_of_quiet (quiet_receive_of_error hc now hf)
    rw [he]
    exact hs.queues_of_connections rfl rfl
  | ok f =>
    rw [receive_eq hc now hf]
    cases f with
    | callResult uniqueId payload =>
      have he := switchboard_eq_of_quiet
        (h.quiet_receiveFrame_callResult now id c.station uniqueId payload)
      rw [he]
      exact hs.queues_of_connections rfl rfl
    | callError uniqueId code description details => exact hs.queues_of_connections rfl rfl
    | call uniqueId action payload =>
      have hreply := Switchboard.reply_noteCall_of_closed hs hc hclosed
      suffices hnoted : ((h.setSwitchboard (h.plant.switchboard.noteCall id uniqueId)).receiveCall now
          id c.station action payload).plant.switchboard = h.plant.switchboard.noteCall id uniqueId by
        rw [receiveFrame, hnoted]
        exact hs.queues_noteCall id uniqueId
      rw [receiveCall]
      cases hr : Request.decode action payload with
      | error e =>
        dsimp only [refuse, note, setSwitchboard, Plant.note]
        rw [hreply]
      | ok r =>
        dsimp only [handle, setSwitchboard]
        rw [hreply]
        rfl

def step (h : Hub) : HubStep → Hub
  | .connect station => h.setSwitchboard (h.plant.switchboard.connect station).2
  | .disconnect id => h.setSwitchboard (h.plant.switchboard.disconnect id).2
  | .hangUp id => h.setSwitchboard (h.plant.switchboard.hangUp id)
  | .closeAll => h.setSwitchboard h.plant.switchboard.closeAll
  | .flush => h.setSwitchboard h.plant.switchboard.flush
  | .receive now id text => h.receive now id text
  | .handler now w => (h.handlerStep now w).2
  | .applyDefault now station =>
    (h.plant.applyDefault now station).toOption.elim h fun plant => { h with plant }
  | .remoteStart station idTag connector =>
    (h.remoteStart station idTag connector).toOption.elim h (·.2)
  | .remoteStop station transaction => (h.remoteStop station transaction).toOption.elim h (·.2)
  | .tick => h.tick
  | .drain => h.drain
  | .records ledger => { h with plant := { h.plant with ledger } }

def runSteps (h : Hub) (is : List HubStep) : Hub := is.foldl step h

def isOpen (h : Hub) (id : Nat) : Bool := (h.plant.switchboard.connection? id).any (·.isOpen)

/-- The answer that a step calls for on a connection: that to a text over it, as long as it is
open. -/
def due? (h : Hub) (id : Nat) : HubStep → Option Reply
  | .receive _ id' text => if id = id' ∧ h.isOpen id = true then Reply.due? text else none
  | _ => none

def replies (h : Hub) (id : Nat) (i : HubStep) : List Reply :=
  Reply.among (((h.step i).plant.switchboard.outbox id).drop (h.plant.switchboard.outbox id).length)

def allDue (h : Hub) (id : Nat) : List HubStep → List Reply
  | [] => []
  | i :: rest => (h.due? id i).toList ++ (h.step i).allDue id rest

def allReplies (h : Hub) (id : Nat) : List HubStep → List Reply
  | [] => []
  | i :: rest => h.replies id i ++ (h.step i).allReplies id rest

theorem calls_elim {α : Type} {result : Except Error α} {next : α → Hub}
    (hr : ∀ a, result = .ok a → h.plant.switchboard.Calls (next a).plant.switchboard) :
    h.plant.switchboard.Calls (result.toOption.elim h next).plant.switchboard := by
  cases result with
  | error e => exact .refl _
  | ok a => exact hr a rfl

section Steps

variable (hs : h.plant.switchboard.Sound)
include hs

theorem queues_receive (now : Timestamp) (id : Nat) (text : String) :
    h.plant.switchboard.Queues (h.receive now id text).plant.switchboard fun id' =>
      (h.due? id' (.receive now id text)).toList := by
  cases hc : h.plant.switchboard.connection? id with
  | none =>
    have hdue (id' : Nat) : h.due? id' (.receive now id text) = none :=
      if_neg fun hd => by simp [isOpen, hd.1, hc] at hd
    simp only [hdue, receive, hc, Option.toList_none]
    exact hs.queues_of_connections rfl rfl
  | some c =>
    have hopen : h.isOpen id = c.isOpen := by rw [isOpen, hc]; rfl
    cases ho : c.isOpen with
    | false =>
      have hdue (id' : Nat) : h.due? id' (.receive now id text) = none :=
        if_neg fun hd => by simp [hd.1, hopen, ho] at hd
      simp only [hdue, Option.toList_none]
      exact queues_receive_of_closed hs hc ho now text
    | true =>
      have hdue (id' : Nat) : (h.due? id' (.receive now id text)).toList =
          Reply.on id (Reply.due? text) id' := by
        rw [due?, Reply.on]
        by_cases he : id' = id
        · subst he
          rw [if_pos ⟨rfl, hopen.trans ho⟩, if_pos rfl]
        · rw [if_neg fun hd => he hd.1, if_neg he]
          rfl
      simp only [hdue]
      exact (dispatch_receive hs hc ho now text).queues hs hc

theorem queues_step (i : HubStep) (hi : ∀ id, i.empties id = false) :
    h.plant.switchboard.Queues (h.step i).plant.switchboard fun id => (h.due? id i).toList := by
  cases i with
  | connect station => exact hs.queues_connect station
  | disconnect id => exact hs.queues_disconnect id
  | hangUp id => simpa [HubStep.empties] using hi id
  | closeAll => exact hs.queues_of_connections rfl rfl
  | flush => simpa [HubStep.empties] using hi 0
  | receive now id text => exact queues_receive hs now id text
  | handler now w => exact (calls_handlerStep hs now w).queues hs
  | applyDefault now station =>
    exact (calls_elim fun _ hp => Plant.calls_applyDefault hs hp).queues hs
  | remoteStart station idTag connector =>
    exact (calls_elim fun _ hr => calls_remoteStart hs hr).queues hs
  | remoteStop station transaction =>
    exact (calls_elim fun _ hr => calls_remoteStop hs hr).queues hs
  | tick => exact (calls_tick hs).queues hs
  | drain => exact hs.queues_of_connections rfl rfl
  | records ledger => exact hs.queues_of_connections rfl rfl

theorem sound_step (i : HubStep) : (h.step i).plant.switchboard.Sound := by
  cases i
  case hangUp id => exact hs.hangUp id
  case flush => exact hs.flush
  all_goals exact (queues_step hs _ fun _ => rfl).sound

theorem outbox_step (i : HubStep) (id : Nat) (hi : i.empties id = false) :
    ∃ texts, (h.step i).plant.switchboard.outbox id = h.plant.switchboard.outbox id ++ texts ∧
      (∀ t ∈ texts, ∃ f, Frame.parse t = .ok f) ∧
      Reply.among texts = (h.due? id i).toList := by
  cases i
  case hangUp id' =>
    have hne : id ≠ id' := fun he => by simp [HubStep.empties, he] at hi
    refine ⟨[], ?_, by simp, rfl⟩
    rw [List.append_nil]
    exact (h.plant.switchboard.outbox_hangUp id' id).trans (if_neg hne)
  case flush => cases hi
  all_goals exact (queues_step hs _ fun _ => rfl).outbox id

theorem replies_eq_due (i : HubStep) (id : Nat) : h.replies id i = (h.due? id i).toList := by
  cases hi : i.empties id with
  | false =>
    obtain ⟨texts, he, -, hr⟩ := outbox_step hs i id hi
    rw [replies, he, List.drop_left, hr]
  | true =>
    have hgone : (h.step i).plant.switchboard.outbox id = [] ∧ h.due? id i = none := by
      cases i
      case hangUp id' =>
        have he : id' = id := by simpa [HubStep.empties] using hi
        exact ⟨(h.plant.switchboard.outbox_hangUp id' id).trans (if_pos he.symm), rfl⟩
      case flush => exact ⟨h.plant.switchboard.outbox_flush id, rfl⟩
      all_goals cases hi
    rw [replies, hgone.1, hgone.2, List.drop_nil]
    rfl

theorem sound_runSteps (is : List HubStep) : (h.runSteps is).plant.switchboard.Sound := by
  induction is generalizing h with
  | nil => exact hs
  | cons i rest ih => exact ih (sound_step hs i)

theorem allReplies_eq_allDue (is : List HubStep) (id : Nat) :
    h.allReplies id is = h.allDue id is := by
  induction is generalizing h with
  | nil => rfl
  | cons i rest ih => rw [allReplies, allDue, replies_eq_due hs, ih (sound_step hs i)]

end Steps

theorem sound_start {settings : Settings} {storage : Storage} {seed : Nat}
    (hstart : start settings storage seed = .ok h) : h.plant.switchboard.Sound := by
  obtain ⟨ledger, -, hh⟩ := bind_eq_ok.1 hstart
  obtain rfl := Except.ok.inj hh
  exact ⟨fun hc => (nomatch hc), fun hc => (nomatch hc)⟩

end Hub

/-- Wherever a run has brought a hub, a text over an open connection is dropped, or settles a Call to
the charge point, or is answered; whatever happens queues nothing but frames; and from there on the
answers that are queued on each connection are those that its Calls call for, in order. -/
theorem answer_discipline {settings : Settings} {storage : Storage} {seed : Nat} {h₀ : Hub}
    (hstart : Hub.start settings storage seed = .ok h₀) (before : List HubStep) :
    (∀ id c, (h₀.runSteps before).plant.switchboard.connection? id = some c → c.isOpen = true →
      ∀ now text, (h₀.runSteps before).Dispatch c text ((h₀.runSteps before).receive now id text)) ∧
    (∀ i id, i.empties id = false → ∃ texts,
      ((h₀.runSteps before).step i).plant.switchboard.outbox id =
        (h₀.runSteps before).plant.switchboard.outbox id ++ texts ∧
      ∀ t ∈ texts, ∃ f, Frame.parse t = .ok f) ∧
    ∀ is id, (h₀.runSteps before).allReplies id is = (h₀.runSteps before).allDue id is := by
  have hs := Hub.sound_runSteps (Hub.sound_start hstart) before
  refine ⟨fun id c hc ho now text => Hub.dispatch_receive hs hc ho now text, fun i id hi => ?_,
    fun is id => Hub.allReplies_eq_allDue hs is id⟩
  obtain ⟨texts, he, hf, -⟩ := Hub.outbox_step hs i id hi
  exact ⟨texts, he, hf⟩

namespace HubStep

def arrivals : List HubStep := [.connect "north", .connect "south"]

/-- A request that is granted, power for it, an answer, a text that is no frame, a request without
what it needs and one that nobody knows. -/
def depot : List HubStep :=
  let start := "[2,\"a\",\"StartTransaction\",\x7b\"connectorId\":1,\"idTag\":\"tag\"," ++
    "\"meterStart\":0,\"timestamp\":\"2024-01-01T00:00:00Z\"\x7d]"
  [.receive .epoch 2 start, .handler .epoch (.balance "south"),
    .receive .epoch 1 "[3,\"a\",\x7b\x7d]", .receive .epoch 2 "[2,\"b\"]", .flush,
    .receive .epoch 1 "[2,\"c\",\"Authorize\",\x7b\x7d]",
    .receive .epoch 2 "[2,\"d\",\"Reset\",\x7b\x7d]"]

end HubStep

def Hub.idleDepot : Hub :=
  { Hub.depot with plant := { ledger := .depot, switchboard := {} } }

theorem Hub.start_depot :
    Hub.start Hub.depot.settings { database := .depot } 0 = .ok .idleDepot := by
  rw [start, Ledger.load_depot]
  rfl

theorem answer_discipline_depot :
    let h := Hub.idleDepot.runSteps HubStep.arrivals
    Hub.start Hub.depot.settings { database := .depot } 0 = .ok .idleDepot ∧
      (∃ c, h.plant.switchboard.connection? 1 = some c ∧ c.isOpen = true ∧
        h.Dispatch c "[]" (h.receive .epoch 1 "[]")) ∧
      (HubStep.tick.empties 1 = false ∧ ∃ texts,
        h.tick.plant.switchboard.outbox 1 = h.plant.switchboard.outbox 1 ++ texts ∧
        ∀ t ∈ texts, ∃ f, Frame.parse t = .ok f) ∧
      h.allReplies 1 HubStep.depot = [⟨"c", some "PropertyConstraintViolation"⟩] ∧
      h.allReplies 2 HubStep.depot = [⟨"a", none⟩, ⟨"d", some "NotImplemented"⟩] := by
  intro h
  obtain ⟨hdispatch, hqueued, hmatch⟩ := answer_discipline Hub.start_depot HubStep.arrivals
  have hnorth : h.plant.switchboard.connection? 1 = some { id := 1, station := "north" } := by
    decide +kernel
  have hdue : h.allDue 1 HubStep.depot = [⟨"c", some "PropertyConstraintViolation"⟩] ∧
      h.allDue 2 HubStep.depot = [⟨"a", none⟩, ⟨"d", some "NotImplemented"⟩] := by
    decide +kernel
  exact ⟨Hub.start_depot, ⟨_, hnorth, rfl, hdispatch 1 _ hnorth rfl .epoch "[]"⟩,
    ⟨rfl, hqueued .tick 1 rfl⟩, (hmatch ..).trans hdue.1, (hmatch ..).trans hdue.2⟩

end CentralSystem
