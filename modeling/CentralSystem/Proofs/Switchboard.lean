import CentralSystem.Plant
import CentralSystem.Proofs.Table
import Mathlib.Data.List.Forall2

namespace CentralSystem

/-- A profile but for the time from which it applies. -/
def ChargingProfile.untimed (p : ChargingProfile) : ChargingProfile :=
  { p with chargingSchedule := { p.chargingSchedule with startSchedule := none } }

def Command.untimed : Command → Command
  | .setChargingProfile r =>
    .setChargingProfile { r with csChargingProfiles := r.csChargingProfiles.untimed }
  | c => c

theorem Command.action_untimed (c : Command) : c.untimed.action = c.action := by
  cases c <;> rfl

/-- Texts that are the same, or write the same Call up to the time from which it applies. -/
def SameText (a b : String) : Prop :=
  a = b ∨ ∃ id c c', Command.untimed c = Command.untimed c' ∧ a = c.encode id ∧ b = c'.encode id

structure Connection.Alike (c c' : Connection) : Prop where
  id : c.id = c'.id
  station : c.station = c'.station
  lastCall : c.lastCall = c'.lastCall
  isOpen : c.isOpen = c'.isOpen
  outbox : List.Forall₂ SameText c.outbox c'.outbox

theorem Connection.Alike.refl (c : Connection) : c.Alike c :=
  ⟨rfl, rfl, rfl, rfl, List.forall₂_same.2 fun _ _ => .inl rfl⟩

namespace Switchboard

structure Alike (s s' : Switchboard) : Prop where
  seed : s.seed = s'.seed
  online : s.online = s'.online
  pending : s.pending = s'.pending
  nextConnection : s.nextConnection = s'.nextConnection
  issued : s.issued = s'.issued
  connection : ∀ id, Option.Rel Connection.Alike (s.connection? id) (s'.connection? id)

namespace Alike

theorem refl (s : Switchboard) : s.Alike s where
  seed := rfl
  online := rfl
  pending := rfl
  nextConnection := rfl
  issued := rfl
  connection id := by
    cases s.connection? id with
    | none => exact .none
    | some c => exact .some (.refl c)

variable {s s' : Switchboard} (h : s.Alike s')
include h

theorem send {c c' : Connection} (hc : c.Alike c') {text text' : String}
    (ht : SameText text text') :
    (∃ e, s.send c text = .error e ∧ s'.send c' text' = .error e) ∨
      ∃ t t', s.send c text = .ok t ∧ s'.send c' text' = .ok t' ∧ t.Alike t' := by
  have hrel := h.connection c.id
  unfold Switchboard.send
  rw [← hc.id, ← hc.station]
  generalize s.connection? c.id = o at hrel
  generalize s'.connection? c.id = o' at hrel
  cases hrel with
  | none => exact .inl ⟨_, rfl, rfl⟩
  | @some d d' hd =>
    dsimp only
    rw [← hd.isOpen, ← hd.station]
    split
    · refine .inr ⟨_, _, rfl, rfl, { h with connection := fun id => ?_ }⟩
      simp only [connection?, Table.get?_insert, hd.id]
      split
      · refine .some ⟨rfl, rfl, hd.lastCall, rfl, ?_⟩
        exact List.rel_append hd.outbox (.cons ht .nil)
      · exact h.connection id
    · exact .inl ⟨_, rfl, rfl⟩

theorem request (station : String) {c c' : Command} (hc : c.untimed = c'.untimed) :
    (∃ e, s.request station c = .error e ∧ s'.request station c' = .error e) ∨
      ∃ id t t', s.request station c = .ok (id, t) ∧ s'.request station c' = .ok (id, t') ∧
        t.Alike t' := by
  have haction : c.action = c'.action := by
    rw [← Command.action_untimed, hc, Command.action_untimed]
  have hrel : Option.Rel Connection.Alike ((s.online.get? station).bind s.connection?)
      ((s'.online.get? station).bind s'.connection?) := by
    rw [h.online]
    cases s'.online.get? station with
    | none => exact .none
    | some id => exact h.connection id
  unfold Switchboard.request
  rw [← h.seed, ← h.issued]
  generalize (s.online.get? station).bind s.connection? = o at hrel
  generalize (s'.online.get? station).bind s'.connection? = o' at hrel
  cases hrel with
  | none => exact .inl ⟨_, rfl, rfl⟩
  | @some d d' hd =>
    dsimp only
    rcases h.send hd (.inr ⟨uniqueId s.seed (s.issued + 1), c, c', hc, rfl, rfl⟩) with
      ⟨e, he, he'⟩ | ⟨t, t', ht, ht', ha⟩
    · rw [he, he']
      exact .inl ⟨e, rfl, rfl⟩
    · rw [ht, ht']
      refine .inr ⟨_, _, _, rfl, rfl, { ha with pending := ?_, issued := rfl }⟩
      simp only [ha.pending, haction]

end Alike

end Switchboard

theorem Location.untimed_defaultProfile (location : Location) (now now' : Timestamp) :
    (location.defaultProfile now).untimed = (location.defaultProfile now').untimed := by
  unfold defaultProfile
  split <;> rfl

theorem Grant.command_cases (g : Grant) : (∃ e, ∀ now, g.command now = .error e) ∨
    ∃ f : Timestamp → Command, (∀ now, g.command now = .ok (f now)) ∧
      ∀ now now', (f now).untimed = (f now').untimed := by
  unfold command
  split
  · exact .inr ⟨_, fun _ => rfl, fun _ _ => rfl⟩
  · exact .inl ⟨_, fun _ => rfl⟩

end CentralSystem
