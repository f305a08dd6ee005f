import Chip8.Machine.InPlace
import Chip8.Proofs.Runner.Leftover
import Chip8.Proofs.Runner.Lockstep

/-!
# A reset as a fresh start

A reset overwrites the machine part by part and leaves one just switched on, with the random source
where it was (`Update.run_reset`). The program that a runner remembers always fits
(`ready_performAll`), so it is loaded again, and nothing is owed or paused then.

A runner that has been reset therefore differs from a new one with the same program, keys, settings
and random source at most in what is done with its output, and two such runners cannot be told apart
by what becomes of their operations and their machines (`Lockstep.transcript`). This is
`reset_is_fresh_start`.
-/

namespace Chip8

theorem Update.run_reset (m : Machine) : reset.run m = .ok () (Machine.initial m.random) :=
  rfl

namespace Runner

variable {κ ω ω' : Type} {r : Runner κ ω} {c : Config}

/-! ### Programs that fit -/

theorem exists_load {program : List UInt8} (h : program.length ≤ programLimit) (m : Machine) :
    ∃ loaded, m.load program = .ok loaded := by
  rw [Machine.load, Memory.load, if_pos h]
  exact ⟨_, rfl⟩

theorem load_of_ok {loaded : Machine} {program : List UInt8}
    (h : r.machine.load program = .ok loaded) :
    r.load program
      = .ok ({ r with machine := loaded, program }.note (.loaded program.length)) := by
  rw [load, h]

/-- If the program fits into a machine just switched on, a reset succeeds. -/
theorem reset_of_ok {loaded : Machine}
    (h : (Machine.initial r.machine.random).load r.program = .ok loaded) :
    r.reset
      = .ok ({ r.cleared with machine := loaded }.note (.loaded r.program.length)).unburdened := by
  have hload : r.cleared.load r.program = .ok _ := load_of_ok h
  rw [reset_eq, hload]
  rfl

theorem exists_reset (h : r.plan.Ready c) :
    ∃ again, r.reset = .ok again ∧ again.paused = false ∧ again.keys = r.keys := by
  obtain ⟨loaded, hloaded⟩ := exists_load h.fits (Machine.initial r.machine.random)
  exact ⟨_, reset_of_ok hloaded, rfl, rfl⟩

variable [KeySource κ] [OutputDevice ω]

theorem ready_run (h : r.plan.Ready c) (n : ℕ) : (Halt.settle (r.run n)).1.plan.Ready c := by
  induction n generalizing r with
  | zero => exact h
  | succ n ih =>
    have hframe := ready_frame h
    rw [run_succ]
    cases hx : r.frame with
    | ok s =>
      rw [hx] at hframe
      exact ih hframe
    | error halt =>
      rw [hx] at hframe
      exact hframe

/-- After every history the settings are the same and the program fits. -/
theorem ready_performAll (h : r.plan.Ready c) (ops : List RunnerOperation) :
    (r.performAll ops).plan.Ready c := by
  induction ops generalizing r with
  | nil => exact h
  | cons op rest ih =>
    refine ih ?_
    cases hop : op.isRun with
    | false => exact (ready_perform h hop).1
    | true =>
      cases op with
      | run frames => exact ready_run h frames
      | _ => cases hop

/-! ### What a history shows -/

/-- What becomes of each operation of a history: its error if it has one, and the machine that it
leaves. -/
def transcript (r : Runner κ ω) : List RunnerOperation → List (Option Error × Machine)
  | [] => []
  | op :: rest =>
    let settled := Halt.settle (r.perform op)
    (settled.2, settled.1.machine) :: settled.1.transcript rest

variable [OutputDevice ω']

/-- Runners in lockstep cannot be told apart by their errors and machines. -/
theorem Lockstep.transcript {P : Runner κ ω → Runner κ ω' → Prop} (hL : Lockstep P)
    {r' : Runner κ ω'} (h : P r r') (ops : List RunnerOperation) :
    r.transcript ops = r'.transcript ops := by
  induction ops generalizing r r' with
  | nil => rfl
  | cons op rest ih =>
    have hop := hL.perform h op
    have hmachine := (hL.alike hop.settled).machine
    rw [Runner.transcript, Runner.transcript, hop.error_eq, hmachine, ih hop.settled]

/-- Whatever has been done to a runner, resetting it succeeds. Its machine is then one just switched
on with the program loaded, nothing is owed, it is not paused, and all that it does from then on is
what a new runner does that has loaded the same program and goes on with the same keys, settings and
random bytes. -/
theorem reset_is_fresh_start (machine : Machine) (keys : κ) (output : ω) (output' : ω')
    (config : Config) (threshold threshold' : Option Severity) (ops : List RunnerOperation) :
    let r := (new machine keys output config threshold).performAll ops
    let blank := Machine.initial r.machine.random
    Update.reset.run r.machine = .ok () blank ∧
    ∃ again fresh, r.reset = .ok again ∧
      (new blank r.keys output' config threshold').load r.program = .ok fresh ∧
      blank.load r.program = .ok again.machine ∧
      again.machine = fresh.machine ∧ again.keys = r.keys ∧ again.program = r.program ∧
      again.config = config ∧ again.budget = .zero ∧ again.paused = false ∧
      ∀ later, again.transcript later = fresh.transcript later := by
  intro r blank
  have hstart : (new machine keys output config threshold).plan.Ready config :=
    ⟨rfl, Nat.zero_le _⟩
  have hready : r.plan.Ready config := ready_performAll hstart ops
  have hconfig : r.config = config := hready.config
  obtain ⟨loaded, hloaded⟩ := exists_load hready.fits blank
  have hfresh : (new blank r.keys output' config threshold').load r.program = .ok _ :=
    load_of_ok hloaded
  refine ⟨Update.run_reset _, _, _, reset_of_ok hloaded, hfresh, hloaded, rfl, rfl, rfl, hconfig,
    rfl, rfl, ?_⟩
  intro later
  have hL : Lockstep (Alike : Runner κ ω → Runner κ ω' → Prop) := lockstep_alike
  refine hL.transcript ⟨rfl, rfl, rfl, rfl, rfl, ?_, ?_, ?_⟩ later
  · exact congrArg Config.clockSpeed hconfig
  · exact congrArg Config.tickRate hconfig
  · exact congrArg Config.timerMode hconfig

end Runner

end Chip8
