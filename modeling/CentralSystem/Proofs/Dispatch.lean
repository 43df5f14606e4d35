import CentralSystem.Proofs.Outbox

namespace CentralSystem

theorem Response.legible_frame (r : Response) (uniqueId : String) :
    (r.frame uniqueId).Legible := by
  have hinfo (info : IdTagInfo) : Json.Within 1 (IdTagInfo.shape.encode info) :=
    IdTagInfo.shape.within_encode info
  have hmembers : ∀ m ∈ r.members, Json.Within 1 m.2 := by
    cases r with
    | bootNotification time interval status =>
      simpa [members, Json.ofNat] using ⟨.string .., .number .., .string ..⟩
    | authorize info => simpa [members] using hinfo info
    | heartbeat time => simpa [members] using .string ..
    | startTransaction info id =>
      simpa [members, Json.ofInt] using ⟨hinfo info, .number ..⟩
    | stopTransaction info =>
      cases info with
      | none => simp [members]
      | some info => simpa [members] using hinfo info
    | dataTransfer data status =>
      cases data with
      | none => simpa [members] using .string ..
      | some data => simpa [members] using ⟨.string .., .string ..⟩
    | _ => simp [members]
  have hu (info : IdTagInfo) : (IdTagInfo.shape.encode info).Unmarked :=
    IdTagInfo.shape.unmarked_encode (by decide) info
  have hmarked : ∀ m ∈ r.members, m.1 ≠ Json.numberKey ∧ m.2.Unmarked := by
    cases r with
    | bootNotification time interval status =>
      simpa [members, Json.ofNat, Json.numberKey] using ⟨.string _, .number _, .string _⟩
    | authorize info => simpa [members, Json.numberKey] using hu info
    | heartbeat time => simpa [members, Json.numberKey] using .string _
    | startTransaction info id =>
      simpa [members, Json.ofInt, Json.numberKey] using ⟨hu info, .number _⟩
    | stopTransaction info =>
      cases info with
      | none => simp [members]
      | some info => simpa [members, Json.numberKey] using hu info
    | dataTransfer data status =>
      cases data with
      | none => simpa [members, Json.numberKey] using .string _
      | some data => simpa [members, Json.numberKey] using ⟨.string _, .string _⟩
    | _ => simp [members]
  exact ⟨⟨rfl, (Json.within_ofMembers hmembers).mono (by decide)⟩,
    Json.unmarked_ofMembers hmarked⟩

theorem Frame.legible_refusal (uniqueId code description : String) :
    (refusal uniqueId code description).Legible :=
  ⟨.object .nil (by simp), .object (by simp) (by simp)⟩

namespace Schema

variable {α : Type} {schema : Schema α}

theorem code_of_check_eq_error {a : α} {e : Error} (h : schema.check a = .error e) :
    e.code = "PropertyConstraintViolation" := by
  unfold check at h
  split at h
  · obtain rfl := Except.error.inj h
    rfl
  · cases h

theorem code_of_decode_eq_error {payload : Json} {e : Error} (h : schema.decode payload = .error e) :
    e.code = "PropertyConstraintViolation" := by
  rcases bind_eq_error.1 h with hread | ⟨a, -, h⟩
  · obtain ⟨m, -, rfl⟩ := mapError_eq_error_iff.1 hread
    rfl
  · rcases bind_eq_error.1 h with hcheck | ⟨_, -, h⟩
    · exact code_of_check_eq_error hcheck
    · cases h

end Schema

namespace Request

def refusalCode (action : String) : String :=
  if action ∈ Action.inbound.map Action.name then "PropertyConstraintViolation"
  else "NotImplemented"

theorem decodeAs?_of_inbound {a : Action} (h : a ∈ Action.inbound) (payload : Json) :
    ∃ result, decodeAs? a payload = some result ∧
      ∀ e, result = .error e → e.code = "PropertyConstraintViolation" := by
  cases a
  case bootNotification | authorize | heartbeat | startTransaction | stopTransaction | meterValues |
      statusNotification | dataTransfer | diagnosticsStatusNotification |
      firmwareStatusNotification =>
    exact ⟨_, rfl, fun _ he => Schema.code_of_decode_eq_error (map_eq_error_iff.1 he)⟩
  all_goals exact absurd h (by decide)

theorem code_of_decode_eq_error {action : String} {payload : Json} {e : Error}
    (h : decode action payload = .error e) : e.code = refusalCode action := by
  cases ha : Action.ofName? Action.inbound action with
  | none =>
    have hn : action ∉ Action.inbound.map Action.name := by
      simpa [Action.ofName?] using ha
    rw [decode, ha] at h
    obtain rfl := Except.error.inj h
    exact (if_neg hn).symm
  | some a =>
    have hin : a ∈ Action.inbound := List.mem_of_find?_eq_some ha
    have hn : action ∈ Action.inbound.map Action.name :=
      List.mem_map.2 ⟨a, hin, Action.of_ofName?_eq_some ha⟩
    obtain ⟨result, hresult, hcode⟩ := decodeAs?_of_inbound hin payload
    rw [decode, ha, Option.bind_some, hresult] at h
    rw [refusalCode, if_pos hn]
    exact hcode e h

end Request

namespace Switchboard

variable {s : Switchboard}

/-- The switchboard behind the answer to the Call that came in last over a connection. -/
def answered (s : Switchboard) (c : Connection) (answer : Frame) : Switchboard :=
  let c := { c with lastCall := some answer.uniqueId, outbox := c.outbox ++ [answer.render] }
  { s with connections := s.connections.insert c.id c }

theorem connection?_noteCall (id : Nat) (uniqueId : String) (id' : Nat) :
    (s.noteCall id uniqueId).connection? id' = (s.connection? id').map fun c =>
      if id' = id then { c with lastCall := some uniqueId } else c :=
  Table.get?_modify_eq_map ..

theorem connection?_noteCall_self {id : Nat} {c : Connection} (hc : s.connection? id = some c)
    (uniqueId : String) : (s.noteCall id uniqueId).connection? id =
      some { c with lastCall := some uniqueId } := by
  rw [connection?_noteCall, hc, Option.map_some, if_pos rfl]

theorem reply_noteCall (hs : s.Sound) {id : Nat} {c : Connection} (hc : s.connection? id = some c)
    (hopen : c.isOpen = true) {answer : String → Frame} {uniqueId : String}
    (ha : (answer uniqueId).uniqueId = uniqueId) :
    (s.noteCall id uniqueId).reply id answer = .ok (s.answered c (answer uniqueId)) := by
  obtain rfl : c.id = id := hs.id hc
  have htable (c' : Connection) : (s.noteCall c.id uniqueId).connections.insert c.id c' =
      s.connections.insert c.id c' := by
    apply Table.ext_get?
    intro id
    rw [Table.get?_insert, Table.get?_insert]
    split
    · rfl
    · next hne =>
      refine (connection?_noteCall ..).trans ?_
      simp only [if_neg hne, Option.map_id']
      rfl
  rw [reply, connection?_noteCall_self hc]
  dsimp only
  rw [send]
  dsimp only
  rw [connection?_noteCall_self hc]
  dsimp only
  rw [if_pos hopen, htable, answered, ha]
  rfl

theorem reply_noteCall_of_closed (hs : s.Sound) {id : Nat} {c : Connection}
    (hc : s.connection? id = some c) (hclosed : c.isOpen = false) (answer : String → Frame)
    (uniqueId : String) :
    (s.noteCall id uniqueId).reply id answer = .error (.notConnected c.station) := by
  obtain rfl : c.id = id := hs.id hc
  rw [reply, connection?_noteCall_self hc]
  dsimp only
  rw [send]
  dsimp only
  rw [connection?_noteCall_self hc]
  dsimp only
  rw [hclosed]
  rfl

theorem connection?_answered (c : Connection) (answer : Frame) (id : Nat) :
    (s.answered c answer).connection? id = if id = c.id then
      some { c with lastCall := some answer.uniqueId, outbox := c.outbox ++ [answer.render] }
    else s.connection? id :=
  Table.get?_insert ..

namespace Sound

variable (hs : s.Sound)
include hs

theorem answered {id : Nat} {c : Connection} (hc : s.connection? id = some c) (answer : Frame) :
    (s.answered c answer).Sound := by
  obtain rfl : c.id = id := hs.id hc
  constructor
  · intro id d hd
    rw [connection?_answered] at hd
    split at hd
    · next he =>
      obtain rfl := Option.some.inj hd
      exact he.symm
    · exact hs.id hd
  · intro id d hd
    rw [connection?_answered] at hd
    split at hd
    · next he => exact he ▸ hs.fresh hc
    · exact hs.fresh hd

end Sound

end Switchboard

namespace Hub

/-- The hub without what was noted. -/
def quiet (h : Hub) : Hub := { h with plant := { h.plant with ledger := h.plant.ledger.quiet } }

/-- What becomes of a text that came in over an open connection. -/
inductive Dispatch (h : Hub) (c : Connection) (text : String) (h' : Hub) : Prop
  | dropped (e : FrameError) (unread : Frame.parse text = .error e) (same : h'.quiet = h.quiet)
  | settled (uniqueId : String)
    (read : (∃ payload, Frame.parse text = .ok (.callResult uniqueId payload)) ∨
      ∃ code description details,
        Frame.parse text = .ok (.callError uniqueId code description details))
    (same : h'.quiet = (h.setSwitchboard { h.plant.switchboard with
      pending := h.plant.switchboard.pending.erase ⟨c.station, uniqueId⟩ }).quiet)
  | refused (uniqueId action : String) (payload : Json) (e : Error)
    (read : Frame.parse text = .ok (.call uniqueId action payload))
    (invalid : Request.decode action payload = .error e)
    (same : h'.quiet = (h.setSwitchboard (h.plant.switchboard.answered c
      (.refusal uniqueId (Request.refusalCode action) e.message))).quiet)
  | answered (uniqueId action : String) (payload : Json) (r : Request) (result : Json)
    (read : Frame.parse text = .ok (.call uniqueId action payload))
    (valid : Request.decode action payload = .ok r)
    (legible : (Frame.callResult uniqueId result).Legible)
    (calls : (h.plant.switchboard.answered c (.callResult uniqueId result)).Calls
      h'.plant.switchboard)

variable {h : Hub}

section Receive

variable {id : Nat} {c : Connection} (hc : h.plant.switchboard.connection? id = some c)
  (now : Timestamp) {text : String}
include hc

theorem receive_eq {f : Frame} (hf : Frame.parse text = .ok f) :
    h.receive now id text = h.receiveFrame now id c.station f := by
  rw [receive, hc]
  dsimp only
  rw [hf]

theorem quiet_receive_of_error {e : FrameError} (hf : Frame.parse text = .error e) :
    (h.receive now id text).quiet = h.quiet := by
  rw [receive, hc]
  dsimp only
  rw [hf]
  rfl

end Receive

theorem quiet_receiveFrame_callResult (now : Timestamp) (id : Nat) (station uniqueId : String)
    (payload : Json) :
    (h.receiveFrame now id station (.callResult uniqueId payload)).quiet =
      (h.setSwitchboard { h.plant.switchboard with
        pending := h.plant.switchboard.pending.erase ⟨station, uniqueId⟩ }).quiet := by
  rw [receiveFrame]
  split
  all_goals
    next he =>
    obtain ⟨-, rfl⟩ := Prod.mk.inj he
    rfl

section Open

variable (hs : h.plant.switchboard.Sound) {id : Nat} {c : Connection}
  (hc : h.plant.switchboard.connection? id = some c) (hopen : c.isOpen = true)
include hs hc hopen

theorem quiet_refuse {h' : Hub} {uniqueId : String}
    (hq : h'.quiet = (h.setSwitchboard (h.plant.switchboard.noteCall id uniqueId)).quiet)
    (e : Error) :
    (h'.refuse id c.station e).quiet = (h.setSwitchboard (h.plant.switchboard.answered c
      (.refusal uniqueId e.code e.message))).quiet := by
  have hnoted : h'.plant.switchboard = h.plant.switchboard.noteCall id uniqueId :=
    congrArg (fun h => h.plant.switchboard) hq
  rw [refuse, hnoted, Switchboard.reply_noteCall hs hc hopen rfl]
  exact congrArg (·.setSwitchboard (h.plant.switchboard.answered c
    (.refusal uniqueId e.code e.message))) hq

theorem dispatch_receive (now : Timestamp) (text : String) :
    h.Dispatch c text (h.receive now id text) := by
  cases hf : Frame.parse text with
  | error e => exact .dropped e hf (quiet_receive_of_error hc now hf)
  | ok f =>
    rw [receive_eq hc now hf]
    cases f with
    | callResult uniqueId payload =>
      exact .settled uniqueId (.inl ⟨payload, hf⟩) (quiet_receiveFrame_callResult ..)
    | callError uniqueId code description details =>
      exact .settled uniqueId (.inr ⟨code, description, details, hf⟩) rfl
    | call uniqueId action payload =>
      rw [receiveFrame, receiveCall]
      cases hr : Request.decode action payload with
      | error e =>
        refine .refused uniqueId action payload e hf hr ?_
        rw [← Request.code_of_decode_eq_error hr]
        dsimp only
        refine quiet_refuse hs hc hopen ?_ e
        rfl
      | ok r =>
        dsimp only
        generalize hh : (h.setSwitchboard (h.plant.switchboard.noteCall id uniqueId)).handle now
          c.station r = answer
        obtain ⟨response, h'⟩ := answer
        have hnoted : h'.plant.switchboard = h.plant.switchboard.noteCall id uniqueId :=
          congrArg (fun answer => answer.2.plant.switchboard) hh.symm
        dsimp only
        rw [hnoted, Switchboard.reply_noteCall hs hc hopen rfl]
        have hcalls := calls_followUp
          (h := h'.setSwitchboard (h.plant.switchboard.answered c (response.frame uniqueId)))
          (hs.answered hc _) now c.station r
        exact .answered uniqueId action payload r response.payload hf hr
          (response.legible_frame uniqueId) hcalls

end Open

end Hub

end CentralSystem
