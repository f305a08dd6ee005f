import Chip8.Machine.InPlace
import Chip8.Proofs.Machine.Footprint

/-!
# Faults and what they leave behind

An instruction that is stopped leaves the machine as it was. For the programs of
`Chip8.Machine.InPlace`, which overwrite the machine as they go, this needs a proof: each of them
does what its counterpart among `Machine.execute`, `Machine.cycle` and `Machine.step` says
(`run_execute`, `run_cycle`, `run_step`), and a fault of those leaves the machine that they started
from (`Update.leave`).

`Machine.StoppedBy` says what stops the instruction at the program counter, and
`step_eq_error_iff` and `cycle_eq_error_iff` that this is when stepping fails. Of a list of
instructions those before the first that is stopped take effect (`exists_of_executeAll_error`).
-/

namespace Chip8

namespace Flow

theorem target_skipIf (pc : UInt16) (condition : Bool) :
    (skipIf condition).target pc = if condition then pc + 4 else pc + 2 := by
  cases condition with
  | false => rfl
  | true => rfl

end Flow

/-! ### Programs that overwrite the machine -/

namespace Update

/-- A fault stops a program where it is. -/
@[simp]
theorem run_throw {α : Type} (f : Fault) (m : Machine) : (throw f : Update α).run m = .error f m :=
  rfl

/-- A handler starts from what the program before it has left. -/
theorem run_tryCatch (u : Update Unit) (handle : Fault → Update Unit) (m : Machine) :
    (tryCatch u handle : Update Unit).run m
      = match u.run m with
        | .ok () m' => .ok () m'
        | .error f m' => (handle f).run m' := by
  show EStateM.tryCatch u handle m = _
  delta EStateM.tryCatch EStateM.run
  cases u m with
  | ok _ m' => rfl
  | error f m' => rfl

/-- An instruction that does no more than decide whether to skip. -/
theorem run_execute_of_skip {m : Machine} {i : Instruction} {condition : Bool}
    (h : (apply i).run m = .ok (.skipIf condition) m) :
    (execute i).run m = .ok () (m.skipIf condition) := by
  rw [execute, EStateM.run_bind, h]
  simp only [EStateM.run_modify, Flow.target_skipIf, Machine.skipIf]

theorem run_execute_ret (m : Machine) : (execute .ret).run m = leave m (m.execute .ret) := by
  rw [execute.eq_def, apply, Machine.execute.eq_def, CallStack.pop?]
  by_cases hd : m.calls.depth = 0
  · simp [hd, leave]
  · cases hs : m.calls.slot? (m.calls.depth - 1) with
    | none => simp [hd, hs, leave]
    | some site => simp [hd, hs, leave, Flow.target, Machine.jump]

theorem run_execute_call (m : Machine) (a : UInt16) :
    (execute (.call a)).run m = leave m (m.execute (.call a)) := by
  rw [execute.eq_def, apply, Machine.execute.eq_def, CallStack.push?]
  cases hs : m.calls.setSlot? m.calls.depth m.pc with
  | none => simp [hs, leave]
  | some calls => simp [hs, leave, Flow.target, Machine.jump]

theorem run_execute_draw (m : Machine) (x y n : UInt8) :
    (execute (.draw x y n)).run m = leave m (m.execute (.draw x y n)) := by
  by_cases hn : Machine.spriteLimit < n
  · simp [execute, apply, Machine.execute, hn, UInt8.not_le.2 hn, leave]
  · simp [execute, apply, Machine.execute, hn, UInt8.not_lt.1 hn, leave, read, writeFlag,
      Machine.drawSprite, Machine.next, Flow.target]

theorem run_execute_waitForKey (m : Machine) (x : UInt8) :
    (execute (.waitForKey x)).run m = leave m (m.execute (.waitForKey x)) := by
  rw [execute.eq_def, apply, Machine.execute.eq_def]
  cases hk : m.keypad.firstPressed? with
  | none => simp [hk, leave, Machine.awaitKey, Flow.target]
  | some key =>
    simp [hk, leave, write, Machine.awaitKey, Machine.put, Machine.next, Flow.target]

theorem run_execute_storeDecimal (m : Machine) (x : UInt8) :
    (execute (.storeDecimal x)).run m = leave m (m.execute (.storeDecimal x)) := by
  have hi : m.i + 1 + 1 = m.i + 2 := by rw [UInt16.add_assoc]; rfl
  simp [execute, apply, Machine.execute, leave, read, Machine.decimalDigitsOf, Memory.writeBlock,
    hi, Machine.next, Flow.target]

/-- Executing in place is executing, and undoing nothing is needed where a fault is found. -/
theorem run_execute (m : Machine) (i : Instruction) :
    (execute i).run m = leave m (m.execute i) := by
  cases i with
  | ret => exact run_execute_ret m
  | call a => exact run_execute_call m a
  | draw x y n => exact run_execute_draw m x y n
  | waitForKey x => exact run_execute_waitForKey m x
  | storeDecimal x => exact run_execute_storeDecimal m x
  | skipIfEqual x n => exact run_execute_of_skip rfl
  | skipIfNotEqual x n => exact run_execute_of_skip rfl
  | skipIfSame x y => exact run_execute_of_skip rfl
  | skipIfDifferent x y => exact run_execute_of_skip rfl
  | skipIfPressed x => exact run_execute_of_skip rfl
  | skipIfReleased x => exact run_execute_of_skip rfl
  | _ => rfl

theorem run_fetch (m : Machine) :
    fetch.run m = match m.fetch with
      | .ok i => .ok i m
      | .error f => .error f m := by
  rw [fetch, EStateM.run_bind, EStateM.run_get]
  cases hf : m.fetch with
  | ok i => simp [hf]
  | error f => simp [hf]

theorem run_cycle (m : Machine) : cycle.run m = leave m m.cycle := by
  rw [cycle, EStateM.run_bind, run_fetch, Machine.cycle]
  cases m.fetch with
  | ok i => exact run_execute m i
  | error f => rfl

/-- Stepping in place is stepping: where the instruction is stopped, only the timers have changed,
and these are put back. -/
theorem run_step (m : Machine) : step.run m = leave m m.step := by
  rw [step, EStateM.run_bind, run_fetch, Machine.step]
  cases m.fetch with
  | error f => rfl
  | ok i =>
    simp only [EStateM.run_bind, EStateM.run_get, EStateM.run_modify, run_tryCatch,
      run_execute m.tick i]
    cases m.tick.execute i with
    | ok m' => rfl
    | error f => rfl

theorem outcome_leave (m : Machine) (log : List LogRecord) (result : Except Fault Machine) :
    outcome log (leave m result) = .ofAttempt m log result := by
  cases result with
  | ok m' => rfl
  | error f => rfl

theorem outcome_executeAll (m : Machine) (is : List Instruction) :
    outcome (m.executeAll is).log ((executeAll is).run m) = m.executeAll is := by
  induction is generalizing m with
  | nil => rfl
  | cons i rest ih =>
    rw [executeAll, EStateM.run_bind, run_execute, Machine.executeAll]
    cases m.execute i with
    | error f => rfl
    | ok m' =>
      have h := ih m'
      simp only [leave]
      cases hr : (executeAll rest).run m' with
      | ok _ m'' =>
        rw [hr] at h
        rw [← h]
        rfl
      | error f m'' =>
        rw [hr] at h
        rw [← h]
        rfl

end Update

namespace Machine

variable {m m' : Machine} {f : Fault}

/-! ### What stops the instruction at the program counter -/

/-- What stops the instruction at the program counter: its opcode is not legal, it is a call and
all 16 slots are in use, or it is a return and no call is open or the depth is out of bounds. -/
inductive StoppedBy (m : Machine) : Fault → Prop
  | unknownOpcode (h : ¬ m.opcode.Legal) : StoppedBy m (.unknownOpcode m.opcode.toWord m.pc)
  | stackOverflow (h : m.opcode.Fits (Instruction.call 0).form) (hd : 16 ≤ m.calls.depth.toNat) :
    StoppedBy m (.stackOverflow m.pc)
  | stackUnderflow (h : m.opcode.Fits Instruction.ret.form)
    (hd : m.calls.depth.toNat = 0 ∨ 16 < m.calls.depth.toNat) : StoppedBy m (.stackUnderflow m.pc)

/-- Fetching fails iff the opcode is not legal, and else the instruction decides. -/
theorem stoppedBy_iff :
    m.StoppedBy f ↔ m.fetch = .error f ∨ ∃ i, m.fetch = .ok i ∧ m.Refuses i f := by
  rw [fetch]
  cases hd : Instruction.decode? m.opcode with
  | none =>
    have hl := Instruction.decode?_eq_none_iff.1 hd
    constructor
    · rintro (h | ⟨h, -⟩ | ⟨h, -⟩)
      · exact .inl rfl
      · exact absurd ⟨_, h⟩ hl
      · exact absurd ⟨_, h⟩ hl
    · rintro (h | ⟨i, h, -⟩)
      · cases h
        exact .unknownOpcode hl
      · cases h
  | some i =>
    constructor
    · rintro (h | ⟨h, hs⟩ | ⟨h, hs⟩)
      · exact absurd (Instruction.exists_decode?_eq_some_iff.1 ⟨i, hd⟩) h
      · have hc := Instruction.decode?_of_fits_call h
        rw [hd, Option.some.injEq] at hc
        exact .inr ⟨_, rfl, hc ▸ .overflow _ hs⟩
      · have hr := Instruction.decode?_of_fits_ret h
        rw [hd, Option.some.injEq] at hr
        exact .inr ⟨_, rfl, hr ▸ .underflow hs⟩
    · rintro (h | ⟨j, hj, hr⟩)
      · cases h
      · cases hj
        cases hr with
        | overflow a hs =>
          have hf : m.opcode.Fits (Instruction.call a).form := Instruction.fits_form_of_decode? hd
          exact .stackOverflow hf hs
        | underflow hs => exact .stackUnderflow (Instruction.fits_form_of_decode? hd) hs
        | tooTall x y n hn =>
          -- the height of a sprite is a single digit of the opcode
          have hle := Instruction.le_of_decode?_draw hd
          rw [UInt8.lt_iff_toNat_lt] at hn
          exact absurd hn (Nat.not_lt.2 hle)

theorem cycle_eq_error_iff : m.cycle = .error f ↔ m.StoppedBy f := by
  rw [stoppedBy_iff, cycle]
  cases m.fetch with
  | error g => simp
  | ok i => simp [execute_eq_error_iff]

/-- Ticking the timers makes no difference to what is refused. -/
theorem refuses_tick {i : Instruction} : m.tick.Refuses i f ↔ m.Refuses i f := by
  constructor
  · rintro (⟨a, h⟩ | h | ⟨x, y, n, h⟩)
    · exact .overflow a h
    · exact .underflow h
    · exact .tooTall x y n h
  · rintro (⟨a, h⟩ | h | ⟨x, y, n, h⟩)
    · exact .overflow a h
    · exact .underflow h
    · exact .tooTall x y n h

theorem step_eq_error_iff : m.step = .error f ↔ m.StoppedBy f := by
  rw [stoppedBy_iff, step]
  cases m.fetch with
  | error g => simp
  | ok i => simp [execute_eq_error_iff, refuses_tick]

/-! ### What is left after a fault -/

/-- An attempt that fails leaves the machine that it was made on. -/
theorem machine_ofAttempt_of_error {log : List LogRecord} {result : Except Fault Machine}
    (h : (Outcome.ofAttempt m log result).error? ≠ none) :
    (Outcome.ofAttempt m log result).machine = m := by
  cases result with
  | ok m' => exact absurd rfl h
  | error f => rfl

theorem error?_ofAttempt_iff {log : List LogRecord} {result : Except Fault Machine} {e : Error} :
    (Outcome.ofAttempt m log result).error? = some e ↔ ∃ f, e = .fault f ∧ result = .error f := by
  cases result with
  | ok m' => simp [Outcome.ofAttempt]
  | error f => simp [Outcome.ofAttempt, eq_comm]

/-- Executing instructions one after the other: the first that is stopped stops the rest, and finds
the machine that those before it have made. -/
theorem exists_of_executeAll_error {is : List Instruction} {e : Error}
    (h : (m.executeAll is).error? = some e) :
    ∃ before i after, is = before ++ i :: after ∧ (m.executeAll before).error? = none ∧
      ((m.performAll (before.map .execute)).perform (.execute i)).error? = some e ∧
      (m.executeAll is).machine = m.performAll (before.map .execute) := by
  induction is generalizing m with
  | nil => cases h
  | cons i rest ih =>
    cases he : m.execute i with
    | error f =>
      have hall : m.executeAll (i :: rest) = ⟨m, [], some (.fault f)⟩ := by
        simp only [executeAll, he]
      rw [hall] at h
      refine ⟨[], i, rest, rfl, rfl, ?_, by rw [hall]; rfl⟩
      show (Outcome.ofAttempt m (warnings i) (m.execute i)).error? = some e
      rw [he]
      exact h
    | ok m' =>
      -- what comes after the first instruction is executed on the machine that this one has made
      have hstep (is : List Instruction) :
          (m.executeAll (i :: is)).error? = (m'.executeAll is).error? ∧
          (m.executeAll (i :: is)).machine = (m'.executeAll is).machine := by
        simp only [executeAll, he, and_self]
      have hone : (m.perform (.execute i)).machine = m' := by
        simp only [perform, he, Outcome.ofAttempt]
      rw [(hstep rest).1] at h
      obtain ⟨before, j, after, rfl, hok, hstop, hleft⟩ := ih h
      refine ⟨i :: before, j, after, rfl, (hstep before).1.trans hok, ?_, ?_⟩
      · rw [List.map_cons, performAll, List.foldl_cons, hone]
        exact hstop
      · rw [(hstep _).2, hleft, List.map_cons, performAll, performAll, List.foldl_cons, hone]

/-- Stepping and cycling fail exactly where the instruction at the program counter is stopped, and
with that fault. All attempts do what the programs that overwrite the machine do. One that fails
leaves the machine as it was, and a list of instructions leaves what those before the first one
that is stopped have made of it. -/
theorem faults_exact_and_atomic (m : Machine) :
    (∀ e, (m.perform .step).error? = some e ↔ ∃ f, e = .fault f ∧ m.StoppedBy f) ∧
    (∀ e, (m.perform .cycle).error? = some e ↔ ∃ f, e = .fault f ∧ m.StoppedBy f) ∧
    (m.perform .step = Update.outcome m.trace (Update.step.run m) ∧
      m.perform .cycle = Update.outcome m.trace (Update.cycle.run m) ∧
      (∀ i, m.perform (.execute i) = Update.outcome (warnings i) ((Update.execute i).run m)) ∧
      ∀ is, m.perform (.executeAll is)
        = Update.outcome (m.executeAll is).log ((Update.executeAll is).run m)) ∧
    (∀ op, op = .step ∨ op = .cycle ∨ (∃ i, op = .execute i) →
      (m.perform op).error? ≠ none → (m.perform op).machine = m) ∧
    ∀ is e, (m.perform (.executeAll is)).error? = some e →
      ∃ before i after, is = before ++ i :: after ∧
        (m.perform (.executeAll before)).error? = none ∧
        ((m.performAll (before.map .execute)).perform (.execute i)).error? = some e ∧
        (m.perform (.executeAll is)).machine = m.performAll (before.map .execute) := by
  refine ⟨?_, ?_, ⟨?_, ?_, ?_, ?_⟩, ?_, ?_⟩
  · intro e
    simp only [perform, error?_ofAttempt_iff, step_eq_error_iff]
  · intro e
    simp only [perform, error?_ofAttempt_iff, cycle_eq_error_iff]
  · rw [Update.run_step, Update.outcome_leave, perform]
  · rw [Update.run_cycle, Update.outcome_leave, perform]
  · intro i
    rw [Update.run_execute, Update.outcome_leave, perform]
  · intro is
    rw [Update.outcome_executeAll, perform]
  · rintro op (rfl | rfl | ⟨i, rfl⟩) h
    · exact machine_ofAttempt_of_error h
    · exact machine_ofAttempt_of_error h
    · exact machine_ofAttempt_of_error h
  · intro is e h
    exact exists_of_executeAll_error h

/-- A return without a call is stopped and leaves the new machine alone, and of seventeen calls the
last one is stopped. -/
theorem faults_exact_and_atomic_initial :
    let m := Machine.initial (.ofSeed 0)
    (m.perform (.execute .ret)).error? ≠ none ∧ (m.perform (.execute .ret)).machine = m ∧
    (m.perform (.executeAll (List.replicate 17 (.call 0x300)))).error?
      = some (.fault (.stackOverflow 0x300)) ∧
    ∃ before i after, List.replicate 17 (Instruction.call 0x300) = before ++ i :: after ∧
      (m.perform (.executeAll before)).error? = none ∧
      ((m.performAll (before.map .execute)).perform (.execute i)).error?
        = some (.fault (.stackOverflow 0x300)) ∧
      (m.perform (.executeAll (List.replicate 17 (.call 0x300)))).machine
        = m.performAll (before.map .execute) := by
  intro m
  have hret : (m.perform (.execute .ret)).error? ≠ none := by decide
  have hcalls : (m.perform (.executeAll (List.replicate 17 (.call 0x300)))).error?
      = some (.fault (.stackOverflow 0x300)) := by decide
  obtain ⟨-, -, -, hkeep, hall⟩ := faults_exact_and_atomic m
  exact ⟨hret, hkeep _ (.inr (.inr ⟨_, rfl⟩)) hret, hcalls, hall _ _ hcalls⟩

end Machine

end Chip8
