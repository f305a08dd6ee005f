import Chip8.Proofs.Machine.Atomicity
import Chip8.Proofs.Machine.Timers

/-!
# Stepping is ticking and then cycling

A step fetches, ticks the timers, and puts them back if the instruction is stopped. Ticking the
timers and then cycling (`Update.tickAndCycle`) ticks them before anything else and puts nothing
back. Both come to the same (`step_eq_cycle_tick`), because neither the fetched instruction nor what
stops it depends on the timers (`cycle_tick_eq_error_iff`); where the instruction is stopped, they
differ in the timers that they leave (`run_step`, `run_tickAndCycle`).

So an instruction of a step finds the timers ticked, and what it writes there is not ticked any more
(`timersAfter`).
-/

namespace Chip8

namespace Update

/-- Ticks the timers and then executes the instruction at the program counter, as two operations. -/
def tickAndCycle : Update Unit := do
  modify Machine.tick
  cycle

theorem run_tickAndCycle (m : Machine) : tickAndCycle.run m = leave m.tick m.tick.cycle := by
  rw [tickAndCycle, EStateM.run_bind, EStateM.run_modify]
  exact run_cycle m.tick

theorem leave_eq_ok_iff {m m' : Machine} {result : Except Fault Machine} :
    leave m result = .ok () m' ↔ result = .ok m' := by
  cases result with
  | ok next => simp [leave]
  | error f => simp [leave]

theorem exists_leave_eq_ok_iff {m : Machine} {result : Except Fault Machine} :
    (∃ m', leave m result = .ok () m') ↔ ∃ m', result = .ok m' :=
  exists_congr fun _ => leave_eq_ok_iff

theorem leave_eq_error_iff {m m' : Machine} {f : Fault} {result : Except Fault Machine} :
    leave m result = .error f m' ↔ result = .error f ∧ m' = m := by
  cases result with
  | ok next => simp [leave]
  | error g => simp [leave, eq_comm]

end Update

namespace Machine

variable {m m' : Machine} {i : Instruction} {f : Fault}

/-- A step is a cycle of the machine with its timers ticked. -/
theorem step_eq_cycle_tick (m : Machine) : m.step = m.tick.cycle := by
  -- memory and program counter are not ticked, so both fetch the same
  have hfetch : m.tick.fetch = m.fetch := rfl
  rw [step_eq_bind, cycle_eq_bind, hfetch]

/-- What stops a cycle does not depend on the timers. -/
theorem cycle_tick_eq_error_iff : m.tick.cycle = .error f ↔ m.cycle = .error f := by
  rw [← step_eq_cycle_tick, step_eq_error_iff, cycle_eq_error_iff]

/-- Attempts that are stopped by the same faults succeed together. -/
theorem exists_eq_ok_iff {x y : Except Fault Machine} (h : ∀ f, x = .error f ↔ y = .error f) :
    (∃ m', x = .ok m') ↔ ∃ m', y = .ok m' := by
  cases x with
  | ok m₁ =>
    cases y with
    | ok m₂ => exact ⟨fun _ => ⟨m₂, rfl⟩, fun _ => ⟨m₁, rfl⟩⟩
    | error f => cases (h f).2 rfl
  | error f =>
    rw [(h f).1 rfl]

theorem tick_eq (m : Machine) :
    m.tick = { m with
      timers :=
        ⟨UInt8.ofNat (m.timers.delay.toNat - 1), UInt8.ofNat (m.timers.sound.toNat - 1)⟩ } := by
  rw [tick, Timers.tick, ← Timers.toNat_countDown, ← Timers.toNat_countDown, UInt8.ofNat_toNat,
    UInt8.ofNat_toNat]

/-- A step, a cycle, and a cycle with both timers one lower succeed on the same machines. If they
do, a step is a tick and then a cycle: its instruction finds the lower timers, and what it sets one
to is not lowered. If they do not, all are stopped by the same fault, and a step leaves the timers
as they were, where a tick and then a cycle leaves them lowered. -/
theorem step_agrees_with_cycle_after_tick (m : Machine) :
    let lowered : Machine := { m with
      timers := ⟨UInt8.ofNat (m.timers.delay.toNat - 1), UInt8.ofNat (m.timers.sound.toNat - 1)⟩ }
    m.step = lowered.cycle ∧
    ((∃ m', Update.step.run m = .ok () m') ↔ ∃ m', Update.cycle.run m = .ok () m') ∧
    ((∃ m', Update.step.run m = .ok () m') ↔ ∃ m', Update.cycle.run lowered = .ok () m') ∧
    (∀ m', Update.step.run m = .ok () m' ↔ Update.tickAndCycle.run m = .ok () m') ∧
    (∀ i m', m.fetch = .ok i → Update.step.run m = .ok () m' →
      m'.timers = lowered.timersAfter i ∧
      ∀ x, i = .readDelay x → m'.v.get x = lowered.timers.delay) ∧
    ∀ f m', Update.step.run m = .error f m' →
      m' = m ∧ Update.cycle.run m = .error f m ∧ Update.cycle.run lowered = .error f lowered ∧
      Update.tickAndCycle.run m = .error f lowered := by
  intro lowered
  have hlowered : lowered = m.tick := (tick_eq m).symm
  have hstopped (f : Fault) : m.step = .error f ↔ m.cycle = .error f := by
    rw [step_eq_cycle_tick, cycle_tick_eq_error_iff]
  rw [hlowered]
  refine ⟨step_eq_cycle_tick m, ?_, ?_, ?_, ?_, ?_⟩
  · rw [Update.run_step, Update.run_cycle, Update.exists_leave_eq_ok_iff,
      Update.exists_leave_eq_ok_iff]
    exact exists_eq_ok_iff hstopped
  · rw [Update.run_step, Update.run_cycle, Update.exists_leave_eq_ok_iff,
      Update.exists_leave_eq_ok_iff, step_eq_cycle_tick]
  · intro m'
    rw [Update.run_step, Update.run_tickAndCycle, Update.leave_eq_ok_iff, Update.leave_eq_ok_iff,
      step_eq_cycle_tick]
  · intro i m' hfetch hstep
    rw [Update.run_step, Update.leave_eq_ok_iff, step_eq_bind, hfetch] at hstep
    refine ⟨timers_of_execute hstep, ?_⟩
    rintro x rfl
    cases hstep
    simp [next, put, Registers.get_set]
  · intro f m' hstep
    rw [Update.run_step, Update.leave_eq_error_iff] at hstep
    obtain ⟨hstep, rfl⟩ := hstep
    have hcycle := (hstopped f).1 hstep
    have hafter := cycle_tick_eq_error_iff.2 hcycle
    rw [Update.run_cycle, Update.run_cycle, Update.run_tickAndCycle, hcycle, hafter]
    exact ⟨rfl, rfl, rfl, rfl⟩

/-- With 5 on the delay timer, a step that reads it reads 4, and a return without a call leaves it
alone. -/
theorem step_agrees_with_cycle_after_tick_of_five :
    let reading := (initial (.ofSeed 0)).performAll [.load [0xF3, 0x07], .setDelay 5]
    let returning := (initial (.ofSeed 0)).performAll [.load [0x00, 0xEE], .setDelay 5]
    (∃ m', Update.step.run reading = .ok () m' ∧ m'.v.get 3 = 4 ∧ m'.timers = ⟨4, 0⟩) ∧
      Update.step.run returning = .error (.stackUnderflow 0x200) returning ∧
      Update.tickAndCycle.run returning
        = .error (.stackUnderflow 0x200) { returning with timers := ⟨4, 0⟩ } := by
  intro reading returning
  have hreading : reading.fetch = .ok (.readDelay 3) := by
    have hdecode : Instruction.decode? reading.opcode = some (.readDelay 3) := by decide +kernel
    rw [fetch, hdecode]
  have hdelay : reading.timers = ⟨5, 0⟩ ∧ returning.timers = ⟨5, 0⟩ := by decide +kernel
  have hstopped : Update.step.run returning = .error (.stackUnderflow 0x200) returning := by
    have herror : (returning.perform .step).error? = some (.fault (.stackUnderflow 0x200)) := by
      decide +kernel
    obtain ⟨f, hf, hstep⟩ := error?_ofAttempt_iff.1 herror
    cases hf
    rw [Update.run_step, hstep]
    rfl
  obtain ⟨-, -, -, -, hread, -⟩ := step_agrees_with_cycle_after_tick reading
  obtain ⟨-, -, -, -, -, hleft⟩ := step_agrees_with_cycle_after_tick returning
  refine ⟨?_, hstopped, ?_⟩
  · have hstep : ∃ m', Update.step.run reading = .ok () m' := by
      rw [Update.run_step, Update.exists_leave_eq_ok_iff, step_eq_bind, hreading]
      exact ⟨_, rfl⟩
    obtain ⟨m', hm'⟩ := hstep
    obtain ⟨htimers, hvalue⟩ := hread _ m' hreading hm'
    rw [hdelay.1] at htimers hvalue
    exact ⟨m', hm', hvalue 3 rfl, htimers⟩
  · have htick := (hleft _ _ hstopped).2.2.2
    rwa [hdelay.2] at htick

end Machine

end Chip8
