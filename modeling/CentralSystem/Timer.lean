import CentralSystem.Notice

namespace CentralSystem

/-- All times are in milliseconds. -/
structure Schedule where
  period : Nat
  now : Nat := 0
  /-- When the next round is due. -/
  due : Nat := period
deriving DecidableEq, Inhabited, Repr

namespace Schedule

def leeway : Nat := 5

/-- Lets time pass, and tells how many rounds are made at the end of it. -/
def advance (s : Schedule) (time : Nat) : Nat × Schedule :=
  let now := s.now + time
  if now < s.due then (0, { s with now })
  else if s.due + leeway < now then (1, { s with now, due := now + s.period })
  else
    let rounds := (now - s.due) / s.period + 1
    (rounds, { s with now, due := s.due + rounds * s.period })

theorem now_lt_due_advance (s : Schedule) (time : Nat) (h : 0 < s.period) :
    (s.advance time).2.now < (s.advance time).2.due := by
  unfold advance
  dsimp only
  split
  · assumption
  · split
    · exact Nat.lt_add_of_pos_right h
    · have := Nat.lt_mul_div_succ (s.now + time - s.due) h
      rw [Nat.mul_comm] at this
      show s.now + time < s.due + ((s.now + time - s.due) / s.period + 1) * s.period
      omega

end Schedule

structure Shutdown where
  /-- The seconds that a task may take to end. -/
  timeout : Nat
  isTriggered : Bool := false
deriving DecidableEq, Inhabited, Repr

namespace Shutdown

def trigger (s : Shutdown) : Shutdown := { s with isTriggered := true }

def isOver (s : Shutdown) : Bool := s.isTriggered

/-- How long some seconds are waited for. Where the clock would pass its end, which is at 63 bits, the
wait is thirty years. -/
def waitOf (seconds : Nat) : Nat :=
  if seconds + 1 < 2 ^ 63 then seconds else 30 * 365 * 86400

def drain (s : Shutdown) (task : String) (seconds : Nat) : List Notice :=
  if waitOf s.timeout < waitOf seconds then [.shutdownTimedOut task s.timeout] else []

end Shutdown

end CentralSystem
