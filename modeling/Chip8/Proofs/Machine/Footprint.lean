import Chip8.Machine.Operation
import Chip8.Proofs.CallStack
import Chip8.Proofs.Instruction.Decoding

/-!
# What executing an instruction can do

Every later argument about execution goes through the statements here and not through the 35 cases
of `Machine.execute`: which instructions are stopped by which fault (`execute_eq_error_iff`), what
an instruction that was executed may have changed (`footprint_of_execute`), and that no instruction
looks at whether the display has been touched (`execute_congr_of_markDrawn`). Their counterparts for
fetching and ticking follow.
-/

namespace Chip8

namespace Instruction

/-- Whether an instruction calls or returns. -/
def usesStack : Instruction → Bool
  | call _ | ret => true
  | _ => false

/-- Whether an instruction touches the display. -/
def draws : Instruction → Bool
  | clearScreen | draw .. => true
  | _ => false

/-- Whether an instruction writes to memory. -/
def stores : Instruction → Bool
  | storeDecimal _ | dump _ => true
  | _ => false

/-- Whether an instruction takes a random byte. -/
def takesByte : Instruction → Bool
  | random .. => true
  | _ => false

end Instruction

namespace Machine

variable {m m' : Machine} {i : Instruction} {f : Fault}

/-! ### Faults -/

/-- What stops the execution of an instruction. -/
inductive Refuses (m : Machine) : Instruction → Fault → Prop
  | overflow (a : UInt16) (h : 16 ≤ m.calls.depth.toNat) : Refuses m (.call a) (.stackOverflow m.pc)
  | underflow (h : m.calls.depth.toNat = 0 ∨ 16 < m.calls.depth.toNat) :
    Refuses m .ret (.stackUnderflow m.pc)
  | tooTall (x y n : UInt8) (h : spriteLimit < n) : Refuses m (.draw x y n) (.spriteTooTall n)

theorem execute_eq_error_iff : m.execute i = .error f ↔ m.Refuses i f := by
  constructor
  · intro h
    cases i with
    | ret =>
      simp only [execute] at h
      split at h
      · cases h
      · next hp =>
        cases h
        exact .underflow (CallStack.pop?_eq_none_iff.1 hp)
    | call a =>
      simp only [execute] at h
      split at h
      · cases h
      · next hp =>
        cases h
        exact .overflow a (CallStack.push?_eq_none_iff.1 hp)
    | draw x y n =>
      simp only [execute] at h
      split at h
      · cases h
      · next hn =>
        cases h
        exact .tooTall x y n (UInt8.not_le.1 hn)
    | _ => cases h
  · rintro (⟨a, h⟩ | h | ⟨x, y, n, h⟩)
    · simp only [execute, CallStack.push?_eq_none_iff.2 h]
    · simp only [execute, CallStack.pop?_eq_none_iff.2 h]
    · simp only [execute, UInt8.not_le.2 h, if_false]

theorem decode?_of_fetch (h : m.fetch = .ok i) : Instruction.decode? m.opcode = some i := by
  rw [fetch] at h
  split at h
  · next hdecode =>
    cases h
    exact hdecode
  · cases h

/-! ### Changes -/

/-- What an executed instruction keeps, and that drawing is taken note of. -/
structure Footprint (m : Machine) (i : Instruction) (m' : Machine) : Prop where
  calls : i.usesStack = false → m'.calls = m.calls
  display : i.draws = false → m'.display = m.display
  needDraw : m'.needDraw = (m.needDraw || i.draws)

theorem footprint_of_execute (h : m.execute i = .ok m') : Footprint m i m' := by
  cases i with
  | ret =>
    simp only [execute] at h
    split at h
    · cases h
      exact ⟨nofun, fun _ => rfl, (Bool.or_false _).symm⟩
    · cases h
  | call a =>
    simp only [execute] at h
    split at h
    · cases h
      exact ⟨nofun, fun _ => rfl, (Bool.or_false _).symm⟩
    · cases h
  | draw x y n =>
    simp only [execute] at h
    split at h
    · cases h
      exact ⟨fun _ => rfl, nofun, (Bool.or_true _).symm⟩
    · cases h
  | clearScreen =>
    cases h
    exact ⟨fun _ => rfl, nofun, (Bool.or_true _).symm⟩
  | waitForKey x =>
    cases h
    unfold awaitKey
    split
    · exact ⟨fun _ => rfl, fun _ => rfl, (Bool.or_false _).symm⟩
    · exact ⟨fun _ => rfl, fun _ => rfl, (Bool.or_false _).symm⟩
  | _ =>
    cases h
    exact ⟨fun _ => rfl, fun _ => rfl, (Bool.or_false _).symm⟩

/-- Only the instruction that waits for a key touches the flag that says so. -/
theorem waitingForKey_of_execute (hi : ∀ x, i ≠ .waitForKey x) (h : m.execute i = .ok m') :
    m'.waitingForKey = m.waitingForKey := by
  cases i with
  | ret | call a | draw x y n =>
    simp only [execute] at h
    split at h
    · cases h
      rfl
    · cases h
  | waitForKey x => exact absurd rfl (hi x)
  | _ =>
    cases h
    rfl

/-- The timers once an instruction has been executed: what sets one of them sets it to the value of
a register, and no other instruction touches either. -/
def timersAfter (m : Machine) : Instruction → Timers
  | .setDelay x => ⟨m.v.get x, m.timers.sound⟩
  | .setSound x => ⟨m.timers.delay, m.v.get x⟩
  | _ => m.timers

/-- The address register once an instruction has been executed. -/
def indexAfter (m : Machine) : Instruction → UInt16
  | .point a => a
  | .advance x => m.i + (m.v.get x).toUInt16
  | .pointToGlyph x => 5 * (m.v.get x).toUInt16
  | _ => m.i

/-- What an executed instruction did to those parts of the machine that are changed by few
instructions or none. -/
structure Confined (m : Machine) (i : Instruction) (m' : Machine) : Prop where
  memory : i.stores = false → m'.memory = m.memory
  index : m'.i = m.indexAfter i
  timers : m'.timers = m.timersAfter i
  keypad : m'.keypad = m.keypad
  random : m'.random = if i.takesByte then m.random.advance else m.random

theorem confined_of_execute (h : m.execute i = .ok m') : Confined m i m' := by
  cases i with
  | ret | call a | draw x y n =>
    simp only [execute] at h
    split at h
    · cases h
      exact ⟨fun _ => rfl, rfl, rfl, rfl, rfl⟩
    · cases h
  | storeDecimal x | dump x =>
    cases h
    exact ⟨nofun, rfl, rfl, rfl, rfl⟩
  | waitForKey x =>
    cases h
    unfold awaitKey
    split
    · exact ⟨fun _ => rfl, rfl, rfl, rfl, rfl⟩
    · exact ⟨fun _ => rfl, rfl, rfl, rfl, rfl⟩
  | _ =>
    cases h
    exact ⟨fun _ => rfl, rfl, rfl, rfl, rfl⟩

/-- No instruction presses or releases a key. -/
theorem keypad_of_execute (h : m.execute i = .ok m') : m'.keypad = m.keypad :=
  (confined_of_execute h).keypad

theorem timers_of_execute (h : m.execute i = .ok m') : m'.timers = m.timersAfter i :=
  (confined_of_execute h).timers

/-- A call that is executed opens a call at the program counter. -/
theorem calls_of_execute_call {a : UInt16} (h : m.execute (.call a) = .ok m') :
    m.calls.push? m.pc = some m'.calls := by
  simp only [execute] at h
  split at h
  · next calls hp =>
    cases h
    exact hp
  · cases h

/-- A return that is executed closes a call and goes on after its site. -/
theorem calls_of_execute_ret (h : m.execute .ret = .ok m') :
    ∃ site, m.calls.pop? = some (site, m'.calls) ∧ m'.pc = site + 2 := by
  simp only [execute] at h
  split at h
  · next site calls hp =>
    cases h
    exact ⟨site, hp, rfl⟩
  · cases h

/-! ### Loading -/

/-- Loading changes nothing but memory. -/
theorem exists_machine_ofLoad (m : Machine) (log : List LogRecord) (program : List UInt8) :
    ∃ memory, (Outcome.ofLoad m log (m.load program)).machine = { m with memory } := by
  rw [load]
  cases m.memory.load program with
  | ok memory => exact ⟨memory, rfl⟩
  | error e => exact ⟨m.memory, rfl⟩

theorem exists_machine_loadFile (m : Machine) (path : String)
    (contents : Except ReadError (List UInt8)) :
    ∃ memory, (m.loadFile path contents).machine = { m with memory } := by
  cases contents with
  | error reason => exact ⟨m.memory, rfl⟩
  | ok program => exact exists_machine_ofLoad m _ program

/-! ### The machine apart from whether its display has been touched -/

theorem execute_needDraw (m : Machine) (b : Bool) (i : Instruction) :
    ({ m with needDraw := b }.execute i).map markDrawn = (m.execute i).map markDrawn := by
  cases i with
  | ret =>
    simp only [execute]
    cases m.calls.pop? with
    | none => rfl
    | some r => rfl
  | call a =>
    simp only [execute]
    cases m.calls.push? m.pc with
    | none => rfl
    | some calls => rfl
  | draw x y n =>
    simp only [execute]
    split
    · rfl
    · rfl
  | waitForKey x =>
    simp only [execute, awaitKey]
    cases m.keypad.firstPressed? with
    | none => rfl
    | some key => rfl
  | _ => rfl

/-- Machines that differ at most in whether their display has been touched are told apart by no
instruction. -/
theorem execute_congr_of_markDrawn (h : m.markDrawn = m'.markDrawn) (i : Instruction) :
    (m.execute i).map markDrawn = (m'.execute i).map markDrawn := by
  rw [← execute_needDraw m false i, ← execute_needDraw m' false i]
  exact congrArg (fun m => (execute m i).map markDrawn) h

/-- What does not depend on whether the display has been touched is the same for such machines. -/
theorem eq_of_markDrawn_eq {α : Type} {f : Machine → α} (hf : ∀ m, f m.markDrawn = f m)
    (h : m.markDrawn = m'.markDrawn) : f m = f m' := by
  rw [← hf m, h, hf m']

theorem cycle_congr_of_markDrawn (h : m.markDrawn = m'.markDrawn) :
    m.cycle.map markDrawn = m'.cycle.map markDrawn := by
  have hfetch : m.fetch = m'.fetch := eq_of_markDrawn_eq (fun _ => rfl) h
  rw [cycle, cycle, hfetch]
  cases m'.fetch with
  | ok i => exact execute_congr_of_markDrawn h i
  | error f => rfl

theorem step_congr_of_markDrawn (h : m.markDrawn = m'.markDrawn) :
    m.step.map markDrawn = m'.step.map markDrawn := by
  have hfetch : m.fetch = m'.fetch := eq_of_markDrawn_eq (fun _ => rfl) h
  have htick : m.tick.markDrawn = m'.tick.markDrawn := congrArg tick h
  rw [step, step, hfetch]
  cases m'.fetch with
  | ok i => exact execute_congr_of_markDrawn htick i
  | error f => rfl

end Machine

end Chip8
