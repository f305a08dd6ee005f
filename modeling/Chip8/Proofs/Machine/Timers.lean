import Chip8.Proofs.Machine.Footprint
import Chip8.Proofs.Machine.Lockstep

/-!
# The machine apart from its timers

Programs set both timers but read only the delay timer back, with an instruction of its own. So no
other instruction tells machines apart that differ in nothing but their timers (`alike_execute`):
they are stopped by the same faults and else go on to differ in nothing but their timers, whether
the timers are ticked before the instruction, as in `Machine.step`, or not, as in `Machine.cycle`
(`alike_attempt`).
-/

namespace Chip8

namespace Machine

variable {m m' : Machine}

/-- The same with both timers at rest. -/
def untimed (m : Machine) : Machine :=
  { m with timers := .zeros }

theorem exists_timers_eq (h : m.untimed = m'.untimed) : ∃ timers, m' = { m with timers } :=
  ⟨m'.timers, congrArg (fun n => { n with timers := m'.timers }) h.symm⟩

/-- Whether the instruction at the program counter reads the delay timer. -/
def ReadsDelay (m : Machine) : Prop :=
  ∃ x, Instruction.decode? m.opcode = some (.readDelay x)

/-- An instruction that does not read the delay timer does the same whatever the timers are. -/
theorem alike_execute (h : m.untimed = m'.untimed) {i : Instruction}
    (hi : ∀ x, i ≠ .readDelay x) :
    AttemptsAlike Eq (InvImage Eq untimed) (m.execute i) (m'.execute i) := by
  obtain ⟨timers, rfl⟩ := exists_timers_eq h
  cases i with
  | readDelay x => exact absurd rfl (hi x)
  | ret =>
    simp only [execute]
    cases m.calls.pop? with
    | none => exact .error rfl
    | some popped => exact .ok rfl
  | call a =>
    simp only [execute]
    cases m.calls.push? m.pc with
    | none => exact .error rfl
    | some calls => exact .ok rfl
  | draw x y n =>
    simp only [execute]
    split
    · exact .ok rfl
    · exact .error rfl
  | waitForKey x =>
    simp only [execute, awaitKey]
    cases m.keypad.firstPressed? with
    | none => exact .ok rfl
    | some key => exact .ok rfl
  | _ => exact .ok rfl

/-! ### The instruction at the program counter -/

theorem cycle_eq_bind (m : Machine) : m.cycle = m.fetch.bind m.execute := by
  rw [cycle]
  cases m.fetch with
  | ok i => rfl
  | error f => rfl

theorem step_eq_bind (m : Machine) : m.step = m.fetch.bind m.tick.execute := by
  rw [step]
  cases m.fetch with
  | ok i => rfl
  | error f => rfl

/-- Stepping and cycling execute the instruction at the program counter on a machine that differs in
nothing but its timers. -/
theorem exists_eq_bind {result : Except Fault Machine}
    (hresult : result = m.step ∨ result = m.cycle) :
    ∃ ticked : Machine, ticked.untimed = m.untimed ∧ result = m.fetch.bind ticked.execute := by
  rcases hresult with rfl | rfl
  · exact ⟨m.tick, rfl, step_eq_bind m⟩
  · exact ⟨m, rfl, cycle_eq_bind m⟩

/-- Attempts at the same instruction, each with or without a tick before it, come to the same but
for the timers, unless the instruction reads the delay timer. -/
theorem alike_attempt {result result' : Except Fault Machine} (h : m.untimed = m'.untimed)
    (hread : ¬m.ReadsDelay) (hresult : result = m.step ∨ result = m.cycle)
    (hresult' : result' = m'.step ∨ result' = m'.cycle) :
    AttemptsAlike Eq (InvImage Eq untimed) result result' := by
  obtain ⟨ticked, hticked, rfl⟩ := exists_eq_bind hresult
  obtain ⟨ticked', hticked', rfl⟩ := exists_eq_bind hresult'
  have hfetch : m.fetch = m'.fetch := by
    show m.untimed.fetch = m'.untimed.fetch
    rw [h]
  rw [← hfetch]
  cases hi : m.fetch with
  | error f => exact .error rfl
  | ok i =>
    refine alike_execute ((hticked.trans h).trans hticked'.symm) fun x hx => hread ⟨x, ?_⟩
    rw [decode?_of_fetch hi, hx]

/-- Reading the delay timer is never stopped. -/
theorem exists_of_readsDelay {result : Except Fault Machine} (h : m.ReadsDelay)
    (hresult : result = m.step ∨ result = m.cycle) : ∃ next, result = .ok next := by
  obtain ⟨x, hx⟩ := h
  obtain ⟨ticked, -, rfl⟩ := exists_eq_bind hresult
  rw [fetch, hx]
  exact ⟨_, rfl⟩

end Machine

end Chip8
