import Chip8.Proofs.Machine.Atomicity
import Chip8.Proofs.Runner.Lockstep
import Chip8.Proofs.Runner.Plan

/-!
# The schedule of a program

Operations on a machine that are performed one after the other either all succeed
(`Machine.Completes`) or there is a first one that does not. `Machine.performUntil` performs them up
to this one, and what it comes to in the two cases is `performUntil_of_completes` and
`exists_of_not_completes`.

A runner without keys that is not paused does to its machine what its `Config.schedule` says, a list
of operations that only depends on its settings and on the instructions it owes: in every frame all
keys are released, the instructions due are executed, the timers are ticked if they tick once per
frame, and the display is taken note of. It does so up to the first operation that fails
(`reached_run`), which can only be an instruction (`eq_instruction_of_mem_schedule`).
-/

namespace Chip8

namespace Machine

variable {m : Machine} {ops : List Operation}

/-! ### Performing operations until one fails -/

/-- Performs operations one after the other until one fails: the machine that is left, and the
error. -/
def performUntil (m : Machine) : List Operation → Machine × Option Error
  | [] => (m, none)
  | op :: rest =>
    match (m.perform op).error? with
    | none => (m.perform op).machine.performUntil rest
    | some e => ((m.perform op).machine, some e)

theorem performUntil_cons_of_none {op : Operation} (h : (m.perform op).error? = none)
    (rest : List Operation) :
    m.performUntil (op :: rest) = (m.perform op).machine.performUntil rest := by
  rw [performUntil, h]

/-- All operations succeed when they are performed one after the other. -/
def Completes (m : Machine) (ops : List Operation) : Prop :=
  ∀ before op after, ops = before ++ op :: after →
    ((m.performAll before).perform op).error? = none

theorem completes_nil (m : Machine) : m.Completes [] := by
  intro before op after h
  exact absurd h.symm (List.append_ne_nil_of_right_ne_nil before (List.cons_ne_nil op after))

theorem completes_cons_iff {op : Operation} :
    m.Completes (op :: ops)
      ↔ (m.perform op).error? = none ∧ (m.perform op).machine.Completes ops := by
  constructor
  · intro h
    refine ⟨h [] op ops rfl, fun before next after heq => ?_⟩
    exact h (op :: before) next after (congrArg (op :: ·) heq)
  · rintro ⟨hone, hrest⟩ before next after heq
    cases before with
    | nil =>
      obtain ⟨rfl, -⟩ := List.cons.inj heq
      exact hone
    | cons first before =>
      obtain ⟨rfl, htail⟩ := List.cons.inj heq
      exact hrest before next after htail

theorem performUntil_of_completes (h : m.Completes ops) :
    m.performUntil ops = (m.performAll ops, none) := by
  induction ops generalizing m with
  | nil => rfl
  | cons op rest ih =>
    obtain ⟨hone, hrest⟩ := completes_cons_iff.1 h
    rw [performUntil_cons_of_none hone]
    exact ih hrest

/-- If not all operations succeed, one of them is the first to fail, and the others are not
performed. -/
theorem exists_of_not_completes (h : ¬m.Completes ops) :
    ∃ before op after e, ops = before ++ op :: after ∧ m.Completes before ∧
      ((m.performAll before).perform op).error? = some e ∧
      m.performUntil ops = (((m.performAll before).perform op).machine, some e) := by
  induction ops generalizing m with
  | nil => exact absurd (completes_nil m) h
  | cons op rest ih =>
    -- the first to fail is this one or, if it succeeds, the first of the rest
    cases hone : (m.perform op).error? with
    | some e =>
      refine ⟨[], op, rest, e, rfl, completes_nil m, hone, ?_⟩
      rw [performUntil, hone]
      rfl
    | none =>
      have hrest : ¬(m.perform op).machine.Completes rest :=
        fun hrest => h (completes_cons_iff.2 ⟨hone, hrest⟩)
      obtain ⟨before, next, after, e, rfl, hbefore, hstop, hleft⟩ := ih hrest
      refine ⟨op :: before, next, after, e, rfl, completes_cons_iff.2 ⟨hone, hbefore⟩, hstop, ?_⟩
      rw [performUntil_cons_of_none hone]
      exact hleft

/-- An operation that fails keeps those after it from being performed. -/
theorem performUntil_append_of_stopped {m' : Machine} {e : Error}
    (h : m.performUntil ops = (m', some e)) (later : List Operation) :
    m.performUntil (ops ++ later) = (m', some e) := by
  induction ops generalizing m with
  | nil => cases h
  | cons op rest ih =>
    rw [performUntil] at h
    rw [List.cons_append, performUntil]
    cases hone : (m.perform op).error? with
    | some e' =>
      rw [hone] at h
      exact h
    | none =>
      rw [hone] at h
      exact ih h

theorem performUntil_append_of_done {m' : Machine} (h : m.performUntil ops = (m', none))
    (later : List Operation) : m.performUntil (ops ++ later) = m'.performUntil later := by
  induction ops generalizing m with
  | nil =>
    cases h
    rfl
  | cons op rest ih =>
    rw [performUntil] at h
    rw [List.cons_append, performUntil]
    cases hone : (m.perform op).error? with
    | some e' =>
      rw [hone] at h
      cases h
    | none =>
      rw [hone] at h
      exact ih h

end Machine

/-! ### Schedules -/

namespace Config

variable {c : Config}

/-- The operation that executes an instruction. -/
def instruction (c : Config) : Operation :=
  match c.timerMode with
  | .coupled => .step
  | .decoupled => .cycle

/-- The program that executes an instruction in place. -/
def update (c : Config) : Update Unit :=
  match c.timerMode with
  | .coupled => Update.step
  | .decoupled => Update.cycle

/-- What the end of a frame does to the timers. -/
def ticks (c : Config) : List Operation :=
  match c.timerMode with
  | .coupled => []
  | .decoupled => [.tick]

/-- What a frame of `n` instructions does to a machine. -/
def frameOperations (c : Config) (n : ℕ) : List Operation :=
  .releaseAll :: (List.replicate n c.instruction ++ c.ticks ++ [.markDrawn])

/-- What a number of frames do to a machine, if instructions are owed beforehand. -/
def schedule (c : Config) (owed : Allowance) : ℕ → List Operation
  | 0 => []
  | n + 1 =>
    c.frameOperations (owed.add c.instructionsPerFrame).whole ++
      c.schedule
        (Allowance.spend^[(owed.add c.instructionsPerFrame).whole]
          (owed.add c.instructionsPerFrame)) n

/-- An instruction fails where it is stopped, and leaves the machine alone. -/
theorem of_perform_instruction_error {m : Machine} {e : Error}
    (h : (m.perform c.instruction).error? = some e) :
    (m.perform c.instruction).machine = m ∧
      ∃ f, e = .fault f ∧ m.StoppedBy f ∧ c.update.run m = .error f m := by
  rw [instruction] at h ⊢
  rw [update]
  cases hmode : c.timerMode with
  | coupled =>
    rw [hmode] at h
    refine ⟨Machine.machine_ofAttempt_of_error (h ▸ Option.some_ne_none e), ?_⟩
    obtain ⟨f, rfl, hstep⟩ := Machine.error?_ofAttempt_iff.1 h
    refine ⟨f, rfl, Machine.step_eq_error_iff.1 hstep, ?_⟩
    rw [Update.run_step, hstep]
    rfl
  | decoupled =>
    rw [hmode] at h
    refine ⟨Machine.machine_ofAttempt_of_error (h ▸ Option.some_ne_none e), ?_⟩
    obtain ⟨f, rfl, hcycle⟩ := Machine.error?_ofAttempt_iff.1 h
    refine ⟨f, rfl, Machine.cycle_eq_error_iff.1 hcycle, ?_⟩
    rw [Update.run_cycle, hcycle]
    rfl

theorem eq_of_mem_frameOperations {op : Operation} {n : ℕ} (h : op ∈ c.frameOperations n) :
    op = c.instruction ∨ op = .releaseAll ∨ op = .tick ∨ op = .markDrawn := by
  rw [frameOperations, List.mem_cons, List.mem_append, List.mem_append] at h
  rcases h with h | (h | h) | h
  · exact .inr (.inl h)
  · exact .inl (List.eq_of_mem_replicate h)
  · rw [ticks] at h
    cases hmode : c.timerMode with
    | coupled =>
      rw [hmode] at h
      cases h
    | decoupled =>
      rw [hmode] at h
      exact .inr (.inr (.inl (List.mem_singleton.1 h)))
  · exact .inr (.inr (.inr (List.mem_singleton.1 h)))

/-- Nothing but an instruction can fail. -/
theorem eq_instruction_of_mem_schedule {m : Machine} {op : Operation} {e : Error}
    {owed : Allowance} {frames : ℕ} (h : op ∈ c.schedule owed frames)
    (herror : (m.perform op).error? = some e) : op = c.instruction := by
  induction frames generalizing owed with
  | zero => cases h
  | succ n ih =>
    rw [schedule, List.mem_append] at h
    rcases h with h | h
    · rcases eq_of_mem_frameOperations h with h | rfl | rfl | rfl
      · exact h
      · cases herror
      · cases herror
      · cases herror
    · exact ih h

end Config

/-! ### Frames -/

namespace Runner

variable {ω : Type}

/-- The machine that an operation of a runner leaves, and its error if there was one. -/
def reached {κ : Type} (x : Except (Halt κ ω) (Runner κ ω)) : Machine × Option Error :=
  ((Halt.settle x).1.machine, (Halt.settle x).2)

section

variable {κ : Type} {m : Machine} {ops : List Operation} {x : Except (Halt κ ω) (Runner κ ω)}

theorem reached_bind {f : Runner κ ω → Except (Halt κ ω) (Runner κ ω)} {later : List Operation}
    (hx : reached x = m.performUntil ops)
    (hf : ∀ r, x = .ok r → reached (f r) = r.machine.performUntil later) :
    reached (x.bind f) = m.performUntil (ops ++ later) := by
  cases x with
  | ok r => exact (hf r rfl).trans (Machine.performUntil_append_of_done hx.symm later).symm
  | error halt => exact (Machine.performUntil_append_of_stopped hx.symm later).symm

theorem reached_map {f : Runner κ ω → Runner κ ω} {later : List Operation}
    (hx : reached x = m.performUntil ops)
    (hf : ∀ r, x = .ok r → ((f r).machine, none) = r.machine.performUntil later) :
    reached (x.map f) = m.performUntil (ops ++ later) := by
  cases x with
  | ok r => exact (hf r rfl).trans (Machine.performUntil_append_of_done hx.symm later).symm
  | error halt => exact (Machine.performUntil_append_of_stopped hx.symm later).symm

theorem reached_attempt (r : Runner κ ω) (log : List LogRecord) (result : Except Fault Machine) :
    reached (r.noteState.attempt result)
      = ((Outcome.ofAttempt r.machine log result).machine,
        (Outcome.ofAttempt r.machine log result).error?) := by
  cases result with
  | ok m => rfl
  | error f => exact congrArg (·, _) (machine_noteState r)

/-- An instruction of a runner is one of its machine. -/
theorem reached_executeOne (r : Runner κ ω) :
    reached r.executeOne = r.machine.performUntil [r.config.instruction] := by
  have hone : reached r.executeOne = ((r.machine.perform r.config.instruction).machine,
      (r.machine.perform r.config.instruction).error?) := by
    rw [executeOne, Config.instruction]
    cases r.config.timerMode with
    | coupled => exact reached_attempt r _ _
    | decoupled => exact reached_attempt r _ _
  rw [hone, Machine.performUntil]
  cases (r.machine.perform r.config.instruction).error? with
  | none => rfl
  | some e => rfl

theorem reached_executeMany (r : Runner κ ω) (n : ℕ) :
    reached (r.executeMany n)
      = r.machine.performUntil (List.replicate n r.config.instruction) := by
  induction n generalizing r with
  | zero => rfl
  | succ n ih =>
    rw [executeMany_succ]
    have hone := reached_executeOne { r with budget := r.budget.spend }
    refine reached_bind hone fun next hnext => ?_
    have hplan := plan_executeOne { r with budget := r.budget.spend }
    rw [hnext] at hplan
    have hconfig : next.config = r.config := congrArg Plan.config hplan
    rw [ih, hconfig]

theorem reached_play (r : Runner κ ω) :
    reached r.play
      = r.machine.performUntil
        (List.replicate r.owe.budget.whole r.config.instruction ++ r.config.ticks) := by
  have hconfig : r.owe.config = r.config := by
    rw [owe]
  have hmany := reached_executeMany r.owe r.owe.budget.whole
  rw [hconfig, machine_owe] at hmany
  rw [play]
  refine reached_map hmany fun next hnext => ?_
  have hplan := plan_executeMany r.owe r.owe.budget.whole
  rw [hnext] at hplan
  have hnext : next.config = r.config := (congrArg Plan.config hplan).trans hconfig
  rw [tickFrame, Config.ticks, hnext]
  cases r.config.timerMode with
  | coupled => rfl
  | decoupled => rfl

end

variable [OutputDevice ω]

/-- A frame without keys does to the machine what it is scheduled to do. -/
theorem reached_frame {r : Runner NoKeys ω} (h : r.paused = false) :
    reached r.frame = r.machine.performUntil (r.config.frameOperations r.owe.budget.whole) := by
  have hplay : reached r.pollKeys.play = (r.machine.perform .releaseAll).machine.performUntil
      (List.replicate r.owe.budget.whole r.config.instruction ++ r.config.ticks) := by
    rw [← budget_owe_pollKeys]
    exact reached_play r.pollKeys
  rw [frame_of_not_paused h, Config.frameOperations, Machine.performUntil_cons_of_none rfl]
  refine reached_map hplay fun next _ => ?_
  rw [machine_updateOutput]
  rfl

/-- So do any number of frames, stopping at the first operation that fails. -/
theorem reached_run {r : Runner NoKeys ω} (h : r.paused = false) (frames : ℕ) :
    reached (r.run frames) = r.machine.performUntil (r.config.schedule r.budget frames) := by
  induction frames generalizing r with
  | zero => rfl
  | succ n ih =>
    rw [run_succ, Config.schedule, ← budget_owe]
    refine reached_bind (reached_frame h) fun next hnext => ?_
    have hplan := plan_of_frame h hnext
    have hconfig : next.config = r.config := congrArg Plan.config hplan
    have hbudget : next.budget = Allowance.spend^[r.owe.budget.whole] r.owe.budget :=
      congrArg Plan.budget hplan
    have hpaused : next.paused = r.paused := congrArg Plan.paused hplan
    rw [ih (hpaused.trans h), hconfig, hbudget]

end Runner

end Chip8
