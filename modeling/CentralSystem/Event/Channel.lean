namespace CentralSystem

structure Channel (α : Type) where
  capacity : Nat
  /-- How many messages were published. -/
  published : Nat := 0
  /-- The newest messages, oldest first. -/
  buffer : List α := []
  capacity_pos : 0 < capacity := by omega
  length_buffer : buffer.length = min published capacity := by simp
deriving DecidableEq

namespace Channel

/-- A channel that keeps at least this many messages: as many as the next power of two. -/
def withCapacity (n : Nat) : Channel α where
  capacity := n.nextPowerOfTwo
  capacity_pos := Nat.pos_of_isPowerOfTwo (Nat.isPowerOfTwo_nextPowerOfTwo n)

variable (c : Channel α)

def oldest : Nat := c.published - c.buffer.length

def publish (a : α) : Channel α where
  capacity := c.capacity
  published := c.published + 1
  buffer := (c.buffer ++ [a]).drop (c.buffer.length + 1 - c.capacity)
  capacity_pos := c.capacity_pos
  length_buffer := by
    have := c.length_buffer
    have := c.capacity_pos
    simp
    omega

structure Reading (α : Type) where
  missed : Nat
  message : Option α
  next : Nat
deriving DecidableEq

/-- Reads on. A reader that is too slow goes on with the oldest message that is kept. -/
def read (next : Nat) : Reading α :=
  let start := max next c.oldest
  match c.buffer[start - c.oldest]? with
  | some a => ⟨start - next, some a, start + 1⟩
  | none => ⟨start - next, none, start⟩

end Channel

end CentralSystem
