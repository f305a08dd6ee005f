import Chip8.Proofs.Runner.Lockstep
import Chip8.Proofs.Runner.Screen
import Mathlib.Data.List.Induction

/-!
# When a frame is shown

A frame is due once an instruction that touches the display has been executed, until a frame is
shown or the machine is reset. To say so without going by what the machine remembers of it,
`Runner.timeline` lists what happens in a history: the instructions executed, the frames shown and
the resets. `FrameDue` says what this list has to look like.

The machine's mark that its display has been touched follows the timeline step by step
(`needDraw_perform`, `needDraw_performAll`). A frame or a single step is a piece of silent work,
after which the output device is told the news if nothing has failed: so it shows one frame if one
is due by then, and none else (`Presents`).
-/

namespace Chip8

/-- Something that happens in a history of a runner. -/
inductive Incident where
  /-- An instruction is executed. -/
  | executed (instruction : Instruction)
  /-- A frame is shown. -/
  | shown
  /-- The machine is reset. -/
  | reset
deriving DecidableEq

/-- Among what has happened, an instruction that touches the display has been executed, and only
instructions have been executed since: no frame was shown and the machine was not reset. -/
def FrameDue (timeline : List Incident) : Prop :=
  ∃ before i after, timeline = before ++ .executed i :: after ∧ i.draws = true ∧
    ∀ incident ∈ after, ∃ j, incident = .executed j

namespace Incident

variable {timeline : List Incident} {incident : Incident} {i : Instruction} {due : Bool}

/-- Whether a frame is due after something has happened, `due` saying whether one was before. -/
def dueAfter (due : Bool) : Incident → Bool
  | executed i => due || i.draws
  | shown | reset => false

theorem not_frameDue_nil : ¬FrameDue [] := by
  rintro ⟨before, i, after, h, -⟩
  cases before with
  | nil => cases h
  | cons first rest => cases h

/-- What has happened last is an instruction then, which touches the display unless a frame was due
already. -/
theorem frameDue_concat :
    FrameDue (timeline ++ [incident]) ↔
      ∃ i, incident = executed i ∧ (FrameDue timeline ∨ i.draws = true) := by
  constructor
  · rintro ⟨before, i, after, h, hi, hafter⟩
    rcases List.eq_nil_or_concat after with rfl | ⟨rest, last, rfl⟩
    · obtain ⟨rfl, hlast⟩ := List.append_inj' h rfl
      exact ⟨i, List.singleton_inj.1 hlast, .inr hi⟩
    · have hconcat : timeline ++ [incident] = (before ++ executed i :: rest) ++ [last] := by
        simpa using h
      obtain ⟨rfl, hlast⟩ := List.append_inj' hconcat rfl
      rw [List.concat_eq_append, List.forall_mem_append] at hafter
      obtain ⟨j, rfl⟩ := hafter.2 last (List.mem_singleton_self _)
      exact ⟨j, List.singleton_inj.1 hlast, .inl ⟨before, i, rest, rfl, hi, hafter.1⟩⟩
  · rintro ⟨j, rfl, ⟨before, i, after, rfl, hi, hafter⟩ | hj⟩
    · refine ⟨before, i, after ++ [executed j], ?_, hi, ?_⟩
      · rw [List.append_assoc, List.cons_append]
      · rw [List.forall_mem_append, List.forall_mem_singleton]
        exact ⟨hafter, j, rfl⟩
    · exact ⟨timeline, j, [], rfl, hj, nofun⟩

/-- Whether a frame is due follows from one incident after the other. -/
theorem frameDue_iff : FrameDue timeline ↔ timeline.foldl dueAfter false = true := by
  induction timeline using List.reverseRecOn with
  | nil => exact ⟨fun h => absurd h not_frameDue_nil, fun h => nomatch h⟩
  | append_singleton before incident ih =>
    rw [frameDue_concat, List.foldl_append, ih]
    cases incident with
    | executed i => simp [dueAfter]
    | shown => simp [dueAfter]
    | reset => simp [dueAfter]

theorem foldl_dueAfter_executed (due : Bool) (is : List Instruction) :
    (is.map executed).foldl dueAfter due = (due || is.any Instruction.draws) := by
  induction is generalizing due with
  | nil => exact (Bool.or_false due).symm
  | cons i rest ih =>
    rw [List.map_cons, List.foldl_cons, ih, dueAfter, List.any_cons, Bool.or_assoc]

end Incident

namespace Machine

variable {m m' : Machine}

/-! ### Instructions that touch the display -/

theorem any_draws_of_fetch {i : Instruction} (h : m.fetch = .ok i) :
    (Instruction.decode? m.opcode).toList.any Instruction.draws = i.draws := by
  rw [decode?_of_fetch h, Option.toList_some, List.any_cons, List.any_nil, Bool.or_false]

theorem needDraw_of_cycle (h : m.cycle = .ok m') :
    m'.needDraw
      = (m.needDraw || (Instruction.decode? m.opcode).toList.any Instruction.draws) := by
  rw [cycle] at h
  split at h
  · next hfetch =>
    rw [any_draws_of_fetch hfetch]
    exact (footprint_of_execute h).needDraw
  · cases h

theorem needDraw_of_step (h : m.step = .ok m') :
    m'.needDraw
      = (m.needDraw || (Instruction.decode? m.opcode).toList.any Instruction.draws) := by
  rw [step] at h
  split at h
  · next hfetch =>
    rw [any_draws_of_fetch hfetch]
    exact (footprint_of_execute h).needDraw
  · cases h

end Machine

namespace Runner

variable {κ ω : Type}

/-! ### What is executed -/

/-- The instructions executed of `n` that are attempted one after the other: all of them, unless one
is stopped. -/
def executedMany (r : Runner κ ω) : ℕ → List Instruction
  | 0 => []
  | n + 1 =>
    match { r with budget := r.budget.spend }.executeOne with
    | .ok next => (Instruction.decode? r.machine.opcode).toList ++ next.executedMany n
    | .error _ => []

section

variable {r s : Runner κ ω} {halt : Halt κ ω}

theorem needDraw_of_attempt {result : Except Fault Machine}
    (hresult : result = r.machine.step ∨ result = r.machine.cycle)
    (h : r.noteState.attempt result = .ok s) :
    s.machine.needDraw
      = (r.machine.needDraw
        || (Instruction.decode? r.machine.opcode).toList.any Instruction.draws) := by
  cases result with
  | ok m' =>
    cases h
    rcases hresult with hstep | hcycle
    · exact Machine.needDraw_of_step hstep.symm
    · exact Machine.needDraw_of_cycle hcycle.symm
  | error f => cases h

theorem machine_of_attempt {result : Except Fault Machine}
    (h : r.noteState.attempt result = .error halt) : halt.runner.machine = r.machine := by
  cases result with
  | ok m' => cases h
  | error f =>
    cases h
    exact machine_noteState r

theorem exists_executeOne_eq (r : Runner κ ω) :
    ∃ result, r.executeOne = r.noteState.attempt result ∧
      (result = r.machine.step ∨ result = r.machine.cycle) := by
  rw [executeOne]
  cases r.config.timerMode with
  | coupled => exact ⟨_, rfl, .inl rfl⟩
  | decoupled => exact ⟨_, rfl, .inr rfl⟩

theorem needDraw_of_executeOne (h : r.executeOne = .ok s) :
    s.machine.needDraw
      = (r.machine.needDraw
        || (Instruction.decode? r.machine.opcode).toList.any Instruction.draws) := by
  obtain ⟨result, hone, hresult⟩ := exists_executeOne_eq r
  rw [hone] at h
  exact needDraw_of_attempt hresult h

theorem machine_of_executeOne (h : r.executeOne = .error halt) :
    halt.runner.machine = r.machine := by
  obtain ⟨result, hone, -⟩ := exists_executeOne_eq r
  rw [hone] at h
  exact machine_of_attempt h

theorem needDraw_executeMany (r : Runner κ ω) (n : ℕ) :
    (Halt.settle (r.executeMany n)).1.machine.needDraw
      = (r.machine.needDraw || (r.executedMany n).any Instruction.draws) := by
  induction n generalizing r with
  | zero => exact (Bool.or_false _).symm
  | succ n ih =>
    rw [executeMany_succ, executedMany]
    cases hx : { r with budget := r.budget.spend }.executeOne with
    | ok next =>
      have hone := needDraw_of_executeOne hx
      rw [List.any_append, ← Bool.or_assoc]
      exact (ih next).trans (congrArg (· || _) hone)
    | error halt =>
      have hone := machine_of_executeOne hx
      rw [List.any_nil, Bool.or_false]
      exact congrArg Machine.needDraw hone

variable [KeySource κ]

/-- The instructions executed in a frame or a single step. -/
def executed (r : Runner κ ω) : RunnerOperation → List Instruction
  | .frame => if r.paused then [] else r.pollKeys.owe.executedMany r.pollKeys.owe.budget.whole
  | .singleStep =>
    match r.stepWork with
    | .ok _ => (Instruction.decode? r.pollKeys.machine.opcode).toList
    | .error _ => []
  | _ => []

theorem needDraw_frameWork (r : Runner κ ω) :
    (Halt.settle r.frameWork).1.machine.needDraw
      = (r.machine.needDraw || (r.executed .frame).any Instruction.draws) := by
  rw [frameWork, executed]
  split
  · exact (Bool.or_false _).symm
  · have hmany := needDraw_executeMany r.pollKeys.owe r.pollKeys.owe.budget.whole
    rw [machine_owe] at hmany
    refine Eq.trans ?_ hmany
    rw [play]
    cases r.pollKeys.owe.executeMany r.pollKeys.owe.budget.whole with
    | ok s =>
      show s.tickFrame.machine.needDraw = s.machine.needDraw
      rw [tickFrame]
      cases s.config.timerMode with
      | coupled => rfl
      | decoupled => rfl
    | error halt => rfl

theorem needDraw_stepWork (r : Runner κ ω) :
    (Halt.settle r.stepWork).1.machine.needDraw
      = (r.machine.needDraw || (r.executed .singleStep).any Instruction.draws) := by
  rw [executed]
  cases hx : r.stepWork with
  | ok s => exact needDraw_of_attempt (r := r.pollKeys) (.inl rfl) hx
  | error halt =>
    have hpolled : halt.runner.machine = r.pollKeys.machine := machine_of_attempt hx
    rw [List.any_nil, Bool.or_false]
    show halt.runner.machine.needDraw = _
    rw [hpolled]
    rfl

end

theorem needDraw_load (r : Runner κ ω) (program : List UInt8) :
    (Halt.settle (r.load program)).1.machine.needDraw = r.machine.needDraw := by
  rw [load, Machine.load]
  cases r.machine.memory.load program with
  | ok memory => rfl
  | error e => rfl

/-! ### What a frame or a single step shows -/

section

variable {r r' : Runner κ History}

theorem frames_updateOutput (r : Runner κ History) :
    r.updateOutput.output.frames
      = r.output.frames ++ if r.machine.needDraw then [r.machine.display] else [] := by
  rw [output_updateOutput, History.frames_receiveAll, filterMap_frame?_news]

/-- How a frame or a single step with some result shows the display, if the instructions `is` are
executed in it: once if a frame is due by its end and it succeeds, and otherwise not at all. -/
structure Presents (r : Runner κ History) (is : List Instruction)
    (result : Except (Halt κ History) (Runner κ History)) : Prop where
  ok : ∀ r', result = .ok r' →
    r'.machine.needDraw = false ∧
      r'.output.frames = r.output.frames
        ++ if r.machine.needDraw || is.any Instruction.draws then [r'.machine.display] else []
  error : ∀ halt, result = .error halt →
    halt.runner.output = r.output ∧
      halt.runner.machine.needDraw = (r.machine.needDraw || is.any Instruction.draws)

/-- Silent work shows the display once the output device is told. -/
theorem presents_map {x : Except (Halt κ History) (Runner κ History)} {is : List Instruction}
    (hsilent : Silent r (Halt.settle x).1)
    (hdraw : (Halt.settle x).1.machine.needDraw
      = (r.machine.needDraw || is.any Instruction.draws)) :
    Presents r is (x.map updateOutput) := by
  constructor
  · intro r' h
    obtain ⟨s, rfl, rfl⟩ := exists_of_map_eq_ok h
    have hdisplay : s.updateOutput.machine.display = s.machine.display := by
      rw [machine_updateOutput]
      rfl
    rw [frames_updateOutput, hdisplay, ← hdraw, ← hsilent.output]
    exact ⟨needDraw_updateOutput s, rfl⟩
  · intro halt h
    obtain rfl := eq_error_of_map_eq_error h
    exact ⟨hsilent.output, hdraw⟩

variable [KeySource κ]

theorem presents_frame (r : Runner κ History) : Presents r (r.executed .frame) r.frame := by
  rw [frame_eq]
  exact presents_map (silent_frameWork r) (needDraw_frameWork r)

theorem presents_singleStep (r : Runner κ History) :
    Presents r (r.executed .singleStep) r.singleStep := by
  rw [singleStep_eq]
  exact presents_map (silent_stepWork r) (needDraw_stepWork r)

/-! ### What happens in a history -/

/-- What happens in a frame or a single step: instructions are executed, and then frames are shown.
-/
def callIncidents (r : Runner κ History) (op : RunnerOperation) : List Incident :=
  let shown := (Halt.settle (r.perform op)).1.output.frames.length - r.output.frames.length
  (r.executed op).map .executed ++ .replicate shown .shown

/-- What happens in a run of `n` frames, which ends at the first error. -/
def runIncidents (r : Runner κ History) : ℕ → List Incident
  | 0 => []
  | n + 1 =>
    r.callIncidents .frame ++
      match r.frame with
      | .ok next => next.runIncidents n
      | .error _ => []

/-- What happens in an operation that is no edit. -/
def incidents (r : Runner κ History) : RunnerOperation → List Incident
  | .frame => r.callIncidents .frame
  | .run frames => r.runIncidents frames
  | .singleStep => r.callIncidents .singleStep
  | .reset => [.reset]
  | _ => []

/-- What happens in operations one after the other. -/
def timeline (r : Runner κ History) : List RunnerOperation → List Incident
  | [] => []
  | op :: rest => r.incidents op ++ (Halt.settle (r.perform op)).1.timeline rest

/-- A frame or a single step moves the machine's mark that its display has been touched as the
incidents in it do. -/
theorem needDraw_of_presents {op : RunnerOperation}
    (h : Presents r (r.executed op) (r.perform op)) :
    (Halt.settle (r.perform op)).1.machine.needDraw
      = (r.callIncidents op).foldl Incident.dueAfter r.machine.needDraw := by
  rw [callIncidents, List.foldl_append, Incident.foldl_dueAfter_executed]
  cases hx : r.perform op with
  | ok r' =>
    obtain ⟨hdraw, hframes⟩ := h.ok r' hx
    show r'.machine.needDraw = (List.replicate (r'.output.frames.length - _) _).foldl _ _
    rw [hdraw, hframes, List.length_append, Nat.add_sub_cancel_left]
    cases r.machine.needDraw || (r.executed op).any Instruction.draws with
    | true => rfl
    | false => rfl
  | error halt =>
    obtain ⟨houtput, hdraw⟩ := h.error halt hx
    show halt.runner.machine.needDraw
      = (List.replicate (halt.runner.output.frames.length - _) _).foldl _ _
    rw [houtput, Nat.sub_self, hdraw]
    rfl

theorem needDraw_frame (r : Runner κ History) :
    (Halt.settle r.frame).1.machine.needDraw
      = (r.callIncidents .frame).foldl Incident.dueAfter r.machine.needDraw :=
  needDraw_of_presents (presents_frame r)

theorem needDraw_run (r : Runner κ History) (n : ℕ) :
    (Halt.settle (r.run n)).1.machine.needDraw
      = (r.runIncidents n).foldl Incident.dueAfter r.machine.needDraw := by
  induction n generalizing r with
  | zero => rfl
  | succ n ih =>
    have hframe := needDraw_frame r
    rw [run_succ, runIncidents, List.foldl_append, ← hframe]
    cases r.frame with
    | ok next => exact ih next
    | error halt => rfl

/-- So does every operation that is no edit. -/
theorem needDraw_perform (r : Runner κ History) {op : RunnerOperation} (hop : op.isEdit = false) :
    (Halt.settle (r.perform op)).1.machine.needDraw
      = (r.incidents op).foldl Incident.dueAfter r.machine.needDraw := by
  cases op with
  | load program => exact needDraw_load r program
  | loadFile path contents =>
    cases contents with
    | ok program => exact needDraw_load _ program
    | error reason => rfl
  | frame => exact needDraw_frame r
  | run frames => exact needDraw_run r frames
  | singleStep => exact needDraw_of_presents (presents_singleStep r)
  | togglePause => rfl
  | reset => exact (screen_reset r).2.2
  | edit operation => cases hop

theorem needDraw_performAll (r : Runner κ History) {ops : List RunnerOperation}
    (hops : ∀ op ∈ ops, op.isEdit = false) :
    (r.performAll ops).machine.needDraw
      = (r.timeline ops).foldl Incident.dueAfter r.machine.needDraw := by
  induction ops generalizing r with
  | nil => rfl
  | cons op rest ih =>
    rw [List.forall_mem_cons] at hops
    rw [timeline, List.foldl_append, ← needDraw_perform r hops.1]
    exact ih _ hops.2

/-- In a history without edits, a frame or a single step that succeeds shows the display as it has
left it if a frame is due by its end, and nothing otherwise; no frame is due any more after it. One
that fails shows nothing, and neither does any other operation but a run, which is one frame after
the other. -/
theorem presents_iff_due (machine : Machine) (hfresh : machine.needDraw = false) (keys : κ)
    (config : Config) (threshold : Option Severity) {ops : List RunnerOperation}
    (hops : ∀ op ∈ ops, op.isEdit = false) :
    let start := new machine keys History.empty config threshold
    let r := start.performAll ops
    (∀ op, op = .frame ∨ op = .singleStep →
      let happened := start.timeline ops ++ (r.executed op).map .executed
      (∀ r', r.perform op = .ok r' →
        r'.machine.needDraw = false ∧
        (FrameDue happened → r'.output.frames = r.output.frames ++ [r'.machine.display]) ∧
        (¬FrameDue happened → r'.output.frames = r.output.frames)) ∧
      ∀ halt, r.perform op = .error halt → halt.runner.output = r.output) ∧
    (∀ op : RunnerOperation, op.endsInFrame = false →
      (Halt.settle (r.perform op)).1.output = r.output) ∧
    ∀ n, r.perform (.run (n + 1)) = (r.perform .frame).bind fun s => s.perform (.run n) := by
  intro start r
  refine ⟨?_, fun op hop => (silent_perform r hop).output, run_succ r⟩
  intro op hop happened
  have hpresents : Presents r (r.executed op) (r.perform op) := by
    rcases hop with rfl | rfl
    · exact presents_frame r
    · exact presents_singleStep r
  have hdue : FrameDue happened
      ↔ (r.machine.needDraw || (r.executed op).any Instruction.draws) = true := by
    have hstart : start.machine.needDraw = false := hfresh
    rw [Incident.frameDue_iff, List.foldl_append, Incident.foldl_dueAfter_executed,
      needDraw_performAll start hops, hstart]
  refine ⟨fun r' h => ?_, fun halt h => (hpresents.error halt h).1⟩
  obtain ⟨hdraw, hframes⟩ := hpresents.ok r' h
  refine ⟨hdraw, fun hyes => ?_, fun hno => ?_⟩
  · rw [hframes, if_pos (hdue.1 hyes)]
  · rw [hframes, if_neg (mt hdue.2 hno), List.append_nil]

end

/-- A frame clears the screen and is stopped by a return from no call. What it has drawn is shown by
the next frame that succeeds, although that one executes nothing. -/
theorem presents_iff_due_of_stopped_frame :
    let start := new (Machine.initial (.ofSeed 0)) NoKeys.mk History.empty {} none
    let ops : List RunnerOperation := [.load [0x00, 0xE0, 0x00, 0xEE], .frame, .togglePause]
    let r := start.performAll ops
    r.output.frames = [] ∧ r.executed .frame = [] ∧
      ∃ r', r.perform .frame = .ok r' ∧ r'.output.frames = [r'.machine.display] := by
  intro start ops r
  have hsettled : r.output.frames = [] ∧ r.executed .frame = [] ∧
      (Halt.settle (r.perform .frame)).2.isNone = true ∧
      start.timeline ops = [.executed .clearScreen] := by
    unfold r start ops
    decide +kernel
  obtain ⟨hframes, hexecuted, hok, htimeline⟩ := hsettled
  obtain ⟨r', hr'⟩ := Halt.exists_of_settle_isNone hok
  have hops : ∀ op ∈ ops, op.isEdit = false := by
    unfold ops
    decide
  have hdue : FrameDue (start.timeline ops ++ (r.executed .frame).map .executed) := by
    rw [htimeline, hexecuted]
    exact ⟨[], .clearScreen, [], rfl, rfl, nofun⟩
  obtain ⟨hcall, -, -⟩ :=
    presents_iff_due (Machine.initial (.ofSeed 0)) rfl NoKeys.mk {} none hops
  obtain ⟨-, hshown, -⟩ := (hcall .frame (.inl rfl)).1 r' hr'
  have hr'frames : r'.output.frames = r.output.frames ++ [r'.machine.display] := hshown hdue
  rw [hframes] at hr'frames
  exact ⟨hframes, hexecuted, r', hr', hr'frames⟩

end Runner

end Chip8
