import Chip8.Text.Record

/-!
# The call stack

Sixteen slots for the addresses of calls, and a depth that says how many calls are open. Calling
writes the slot at the depth and returning only lowers the depth, so a slot keeps its address until
it is overwritten; `openCalls` is the part that counts. The depth is a byte and may be set to
anything from outside, so `push?` and `pop?` check that the slot they need exists.
-/

namespace Chip8

/-- The addresses of the calls that have not been returned from. -/
structure CallStack where
  /-- The addresses, oldest first; slots from `depth` on are stale. -/
  slots : Vector UInt16 16
  /-- The index of the next free slot. -/
  depth : UInt8
deriving DecidableEq

namespace CallStack

/-- No call open and no stale address either. -/
def empty : CallStack :=
  ⟨Vector.replicate 16 0, 0⟩

/-- The address in slot `k`, if there is such a slot. -/
def slot? (s : CallStack) (k : UInt8) : Option UInt16 :=
  s.slots[k.toNat]?

/-- Replaces the address in slot `k`, if there is such a slot. -/
def setSlot? (s : CallStack) (k : UInt8) (a : UInt16) : Option CallStack :=
  if h : k.toNat < 16 then some { s with slots := s.slots.set k.toNat a h } else none

/-- Opens a call made at address `a`, if a slot is free. -/
def push? (s : CallStack) (a : UInt16) : Option CallStack :=
  (s.setSlot? s.depth a).map fun s => { s with depth := s.depth + 1 }

/-- Closes the youngest open call and gives the address that it was made at, if one is open. -/
def pop? (s : CallStack) : Option (UInt16 × CallStack) :=
  if s.depth = 0 then none
  else (s.slot? (s.depth - 1)).map fun a => (a, { s with depth := s.depth - 1 })

/-- A call that was opened is the next one to be closed, which gives its address back and restores
the depth. -/
theorem pop?_push? {s t : CallStack} {a : UInt16} (h : s.push? a = some t) :
    t.pop? = some (a, { t with depth := s.depth }) := by
  simp only [push?, setSlot?] at h
  split at h
  · next hd =>
    obtain rfl := (Option.some.inj h).symm
    have hn : s.depth + 1 ≠ 0 := by
      intro e
      have e := congrArg UInt8.toNat e
      simp at e
      omega
    simp [pop?, slot?, hn, hd]
  · simp at h

/-- The addresses of the open calls, oldest first. -/
def openCalls (s : CallStack) : List UInt16 :=
  s.slots.toList.take s.depth.toNat

/-- The slots for diagnostics. -/
def describe (s : CallStack) : String :=
  Text.application "Stack" [Text.listOf (s.slots.toList.map fun a => Text.decimal a.toNat)]

end CallStack

end Chip8
