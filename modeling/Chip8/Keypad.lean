import Chip8.Text.Record

/-!
# The keypad

Sixteen keys, each up or down. A key number above 15 names no key: pressing it does nothing and it
is never down.

What holds keys down is a *key source*, which a frame asks once for the state of the whole keypad
(`KeySource.poll`): `NoKeys` never presses any, and a `KeyScript` plays back one list of keys per
poll and none after the last.
-/

namespace Chip8

/-- The state of the keys. -/
structure Keypad where
  /-- Whether each key is down. -/
  down : Vector Bool 16
deriving DecidableEq

namespace Keypad

/-- Every key up. -/
def released : Keypad :=
  ⟨Vector.replicate 16 false⟩

/-- Moves a key down or up, if there is such a key. -/
def set (k : Keypad) (key : UInt8) (isDown : Bool) : Keypad :=
  if h : key.toNat < 16 then ⟨k.down.set key.toNat isDown h⟩ else k

/-- Moves a key down. -/
def press (k : Keypad) (key : UInt8) : Keypad :=
  k.set key true

/-- Moves a key up. -/
def release (k : Keypad) (key : UInt8) : Keypad :=
  k.set key false

/-- Whether a key is down. -/
def isPressed (k : Keypad) (key : UInt8) : Bool :=
  k.down[key.toNat]?.getD false

@[simp]
theorem isPressed_released (key : UInt8) : released.isPressed key = false := by
  simp only [isPressed, released, Vector.getElem?_replicate]
  split <;> rfl

/-- Moving a key changes the state of that key, if there is such a key, and of no other. -/
theorem isPressed_set (k : Keypad) (key other : UInt8) (isDown : Bool) :
    (k.set key isDown).isPressed other
      = if key = other ∧ key.toNat < 16 then isDown else k.isPressed other := by
  unfold set
  split
  · next h =>
    simp only [isPressed, Vector.getElem?_set, UInt8.toNat_inj]
    split <;> simp_all
  · next h => simp [h]

/-- The keys that are down, ascending. -/
def pressed (k : Keypad) : List UInt8 :=
  ((List.range 16).map UInt8.ofNat).filter k.isPressed

/-- The lowest key that is down. -/
def firstPressed? (k : Keypad) : Option UInt8 :=
  k.pressed.head?

theorem isPressed_of_le (k : Keypad) {key : UInt8} (h : 16 ≤ key.toNat) :
    k.isPressed key = false := by
  rw [isPressed, Vector.getElem?_eq_none h]
  rfl

/-- The search for the lowest key goes through the numbers below 16. -/
theorem firstPressed?_eq_find? (k : Keypad) :
    k.firstPressed? = ((List.range 16).find? (k.isPressed ∘ UInt8.ofNat)).map UInt8.ofNat := by
  rw [firstPressed?, pressed, List.head?_filter, List.find?_map]

/-- No key is found iff none is down. -/
theorem firstPressed?_eq_none_iff {k : Keypad} :
    k.firstPressed? = none ↔ ∀ key, k.isPressed key = false := by
  rw [firstPressed?_eq_find?, Option.map_eq_none_iff, List.find?_range_eq_none]
  constructor
  · intro h key
    by_cases hkey : key.toNat < 16
    · simpa using h key.toNat hkey
    · exact k.isPressed_of_le (Nat.not_lt.1 hkey)
  · intro h i _
    simp [h]

/-- The key that is found is down, and no lower one is. -/
theorem of_firstPressed?_eq_some {k : Keypad} {key : UInt8} (h : k.firstPressed? = some key) :
    k.isPressed key = true ∧ ∀ j < key, k.isPressed j = false := by
  rw [firstPressed?_eq_find?, Option.map_eq_some_iff] at h
  obtain ⟨i, hi, rfl⟩ := h
  obtain ⟨hdown, hlt, hlower⟩ := List.find?_range_eq_some.1 hi
  refine ⟨hdown, fun j hj => ?_⟩
  have hj : j.toNat < i := by
    rw [UInt8.lt_iff_toNat_lt, UInt8.toNat_ofNat'] at hj
    exact Nat.lt_of_lt_of_le hj (Nat.mod_le i _)
  simpa using hlower j.toNat hj

/-- The keypad on which exactly the keys of a list are down. -/
def ofKeys (keys : List UInt8) : Keypad :=
  keys.foldl press released

/-- The state of the keys for diagnostics, as ones and zeros. -/
def describe (k : Keypad) : String :=
  Text.record "Keypad" [("keys", Text.bytes (k.down.toList.map Bool.toUInt8))]

end Keypad

/-! ### Key sources -/

/-- A device that keys are read from. -/
class KeySource (σ : Type) where
  /-- The new state of the keypad, given the old one, and the device afterwards. -/
  poll : σ → Keypad → Keypad × σ

/-- The device on which no key is ever down. -/
structure NoKeys where
deriving DecidableEq, Repr

instance : KeySource NoKeys where
  poll source _ := (.released, source)

/-- The device that plays back a list of keys per poll. -/
structure KeyScript where
  /-- The keys of the polls still to come. -/
  frames : List (List UInt8)
deriving DecidableEq, Repr

namespace KeyScript

/-- Whether every list of keys has been played. -/
def finished (s : KeyScript) : Bool :=
  s.frames.isEmpty

/-- The keys of the next poll, and the script after it. -/
def next (s : KeyScript) : List UInt8 × KeyScript :=
  (s.frames.headD [], ⟨s.frames.tail⟩)

instance : KeySource KeyScript where
  poll source _ := (.ofKeys source.next.1, source.next.2)

/-- The script for diagnostics. -/
def describe (s : KeyScript) : String :=
  Text.record "ScriptedInput" [("frames", Text.listOf (s.frames.map Text.bytes))]

end KeyScript

end Chip8
