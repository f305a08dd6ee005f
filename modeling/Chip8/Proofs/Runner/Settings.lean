import Chip8.Proofs.Machine.Timers
import Chip8.Proofs.Runner.FreshStart
import Chip8.Proofs.Runner.Presenting

/-!
# What the settings have no influence on

Two runners with the same task, machine and keys are given the same operations, but one may be
muted, report the state of its machine, or tick its timers at other times than the other one
(`Runner.AgreeUpTo`). Muting and reporting have no influence on the machines, on what becomes of the
operations or on the frames shown, since neither is part of what a runner's work depends on
(`Runner.Alike`).

When the timers are ticked has an influence on the timers, and so on the beep, but a program learns
of it only by reading the delay timer back. As long as it does not, the two machines agree apart
from their timers (`Machine.untimed`): one instruction keeps this (`agree_executeOne`), so do the
instructions of a frame, whether or not one of them is stopped (`agree_executeMany`), and so does
every operation (`agree_perform`). Both cases together are `settings_do_not_interfere`.
-/

namespace Chip8

namespace Runner

variable {κ ω ω' : Type}

/-! ### Runners with the same task -/

/-- Two runners with the same program, keys and speed of execution, of which as much is owed and
both or neither are paused, and whose machines agree as far as `view` shows. They may differ in
their output devices, in what has been reported, and in all other settings. -/
structure AgreeUpTo (view : Machine → Machine) (r : Runner κ ω) (r' : Runner κ ω') : Prop where
  machine : view r.machine = view r'.machine
  keys : r.keys = r'.keys
  program : r.program = r'.program
  budget : r.budget = r'.budget
  paused : r.paused = r'.paused
  clockSpeed : r.config.clockSpeed = r'.config.clockSpeed
  tickRate : r.config.tickRate = r'.config.tickRate

theorem AgreeUpTo.alike {r : Runner κ ω} {r' : Runner κ ω'} (h : AgreeUpTo id r r')
    (hmode : r.config.timerMode = r'.config.timerMode) : Alike r r' :=
  ⟨h.machine, h.keys, h.program, h.budget, h.paused, h.clockSpeed, h.tickRate, hmode⟩

theorem Alike.agree {r : Runner κ ω} {r' : Runner κ ω'} (h : Alike r r') : AgreeUpTo id r r' :=
  ⟨h.machine, h.keys, h.program, h.budget, h.paused, h.clockSpeed, h.tickRate⟩

theorem AgreeUpTo.untimed {r : Runner κ ω} {r' : Runner κ ω'} (h : AgreeUpTo id r r') :
    AgreeUpTo Machine.untimed r r' :=
  { h with machine := congrArg Machine.untimed h.machine }

/-! ### Timers that are ticked at other times -/

section

variable {r : Runner κ ω} {r' : Runner κ ω'}

theorem agree_noteState (h : AgreeUpTo Machine.untimed r r') :
    AgreeUpTo Machine.untimed r.noteState r'.noteState := by
  obtain ⟨journal, hr⟩ := exists_noteState_eq r
  obtain ⟨journal', hr'⟩ := exists_noteState_eq r'
  rw [hr, hr']
  exact { h with }

theorem agree_attempt (h : AgreeUpTo Machine.untimed r r') {result result' : Except Fault Machine}
    (halike : AttemptsAlike Eq (InvImage Eq Machine.untimed) result result') :
    Parallel (AgreeUpTo Machine.untimed) (r.attempt result) (r'.attempt result') := by
  cases halike with
  | ok hmachine => exact .ok { h with machine := hmachine }
  | error hfault => exact .error (congrArg Error.fault hfault) { h with }

/-- An instruction that does not read the delay timer. -/
theorem agree_executeOne (h : AgreeUpTo Machine.untimed r r') (hread : ¬r.machine.ReadsDelay) :
    Parallel (AgreeUpTo Machine.untimed) r.executeOne r'.executeOne := by
  obtain ⟨result, hone, hresult⟩ := exists_executeOne_eq r
  obtain ⟨result', hone', hresult'⟩ := exists_executeOne_eq r'
  rw [hone, hone']
  exact agree_attempt (agree_noteState h) (Machine.alike_attempt h.machine hread hresult hresult')

theorem executedMany_of_ok {next : Runner κ ω} {n : ℕ}
    (h : { r with budget := r.budget.spend }.executeOne = .ok next) :
    r.executedMany (n + 1)
      = (Instruction.decode? r.machine.opcode).toList ++ next.executedMany n := by
  rw [executedMany, h]

/-- An instruction that reads the delay timer is executed if its turn comes. -/
theorem not_readsDelay_of_executedMany {n : ℕ}
    (hread : ∀ x, .readDelay x ∉ r.executedMany (n + 1)) : ¬r.machine.ReadsDelay := by
  intro hreads
  obtain ⟨x, hx⟩ := id hreads
  obtain ⟨result, hone, hresult⟩ := exists_executeOne_eq { r with budget := r.budget.spend }
  obtain ⟨next, rfl⟩ := Machine.exists_of_readsDelay hreads hresult
  refine hread x ?_
  rw [executedMany_of_ok hone, hx]
  exact List.mem_append_left _ (List.mem_singleton_self _)

theorem agree_owing (h : AgreeUpTo Machine.untimed r r') (b : Allowance) :
    AgreeUpTo Machine.untimed { r with budget := b } { r' with budget := b } :=
  { h with budget := rfl }

/-- Instructions one after the other, none of which reads the delay timer. -/
theorem agree_executeMany (h : AgreeUpTo Machine.untimed r r') {n : ℕ}
    (hread : ∀ x, .readDelay x ∉ r.executedMany n) :
    Parallel (AgreeUpTo Machine.untimed) (r.executeMany n) (r'.executeMany n) := by
  induction n generalizing r r' with
  | zero => exact .ok h
  | succ n ih =>
    have hfirst : ¬r.machine.ReadsDelay := not_readsDelay_of_executedMany hread
    have hone := agree_executeOne (agree_owing h r.budget.spend) hfirst
    rw [executedMany] at hread
    rw [executeMany_succ, executeMany_succ, ← h.budget]
    generalize { r with budget := r.budget.spend }.executeOne = x at hone hread ⊢
    generalize { r' with budget := r.budget.spend }.executeOne = x' at hone ⊢
    cases hone with
    | ok h => exact ih h fun x hx => hread x (List.mem_append_right _ hx)
    | error he h => exact .error he h

theorem agree_owe (h : AgreeUpTo Machine.untimed r r') :
    AgreeUpTo Machine.untimed r.owe r'.owe := by
  rw [owe, owe, Config.instructionsPerFrame, Config.instructionsPerFrame, ← h.budget,
    ← h.clockSpeed, ← h.tickRate]
  exact agree_owing h _

/-- The timers may be ticked after a frame of one runner and not of the other. -/
theorem agree_tickFrame (h : AgreeUpTo Machine.untimed r r') :
    AgreeUpTo Machine.untimed r.tickFrame r'.tickFrame := by
  have hticked : ∀ {ω : Type} (r : Runner κ ω), ∃ timers,
      r.tickFrame = { r with machine := { r.machine with timers } } := by
    intro ω r
    rw [tickFrame]
    cases r.config.timerMode with
    | coupled => exact ⟨r.machine.timers, rfl⟩
    | decoupled => exact ⟨r.machine.timers.tick, rfl⟩
  obtain ⟨timers, hr⟩ := hticked r
  obtain ⟨timers', hr'⟩ := hticked r'
  rw [hr, hr']
  exact { h with }

theorem agree_load (h : AgreeUpTo Machine.untimed r r') (program : List UInt8) :
    Parallel (AgreeUpTo Machine.untimed) (r.load program) (r'.load program) := by
  obtain ⟨timers, hmachine⟩ := Machine.exists_timers_eq h.machine
  rw [load, load, Machine.load, Machine.load, hmachine]
  cases r.machine.memory.load program with
  | ok memory => exact .ok { h with machine := rfl, program := rfl }
  | error e => exact .error rfl h

theorem agree_loadFile (h : AgreeUpTo Machine.untimed r r') (path : String)
    (contents : Except ReadError (List UInt8)) :
    Parallel (AgreeUpTo Machine.untimed) (r.loadFile path contents)
      (r'.loadFile path contents) := by
  cases contents with
  | ok program =>
    have hnote : AgreeUpTo Machine.untimed (r.note (.executing path)) (r'.note (.executing path)) :=
      { h with }
    exact agree_load hnote program
  | error reason => exact .error rfl h

/-- A reset puts the timers at rest. -/
theorem agree_reset (h : AgreeUpTo Machine.untimed r r') :
    Parallel (AgreeUpTo Machine.untimed) r.reset r'.reset := by
  obtain ⟨timers, hmachine⟩ := Machine.exists_timers_eq h.machine
  have hcleared : AgreeUpTo Machine.untimed r.cleared r'.cleared := by
    refine { h with machine := ?_ }
    show r.machine.reset.untimed = r'.machine.reset.untimed
    rw [hmachine]
    rfl
  rw [reset_eq, reset_eq, ← h.program]
  exact (agree_load hcleared r.program).map fun _ _ h => { h with budget := rfl, paused := rfl }

section

variable [KeySource κ]

theorem agree_pollKeys (h : AgreeUpTo Machine.untimed r r') :
    AgreeUpTo Machine.untimed r.pollKeys r'.pollKeys := by
  obtain ⟨timers, hmachine⟩ := Machine.exists_timers_eq h.machine
  have hpoll :
      KeySource.poll r.keys r.machine.keypad = KeySource.poll r'.keys r'.machine.keypad := by
    rw [h.keys, hmachine]
  refine { h with machine := ?_, keys := congrArg Prod.snd hpoll }
  exact congrArg₂ (fun m keypad => { m with keypad }) h.machine (congrArg Prod.fst hpoll)

theorem agree_frameWork (h : AgreeUpTo Machine.untimed r r')
    (hread : ∀ x, .readDelay x ∉ r.executed .frame) :
    Parallel (AgreeUpTo Machine.untimed) r.frameWork r'.frameWork := by
  rw [executed] at hread
  rw [frameWork, frameWork, ← h.paused]
  split
  · exact .ok (agree_pollKeys h)
  · next hpaused =>
    rw [if_neg hpaused] at hread
    have howe := agree_owe (agree_pollKeys h)
    rw [play, play, ← howe.budget]
    exact (agree_executeMany howe hread).map fun _ _ h => agree_tickFrame h

theorem agree_stepWork (h : AgreeUpTo Machine.untimed r r')
    (hread : ∀ x, .readDelay x ∉ r.executed .singleStep) :
    Parallel (AgreeUpTo Machine.untimed) r.stepWork r'.stepWork := by
  have hpoll := agree_pollKeys h
  have hread : ¬r.pollKeys.machine.ReadsDelay := by
    intro hreads
    obtain ⟨x, hx⟩ := id hreads
    obtain ⟨next, hnext⟩ := Machine.exists_of_readsDelay hreads (.inl rfl)
    refine hread x ?_
    rw [executed, stepWork, hnext, hx]
    exact List.mem_singleton_self _
  exact agree_attempt (agree_noteState hpoll)
    (Machine.alike_attempt hpoll.machine hread (.inl rfl) (.inl rfl))

end

end

/-! ### Frames that are shown -/

/-- Two runners have shown the same frames since one had shown `before` and the other `before'`. -/
def ShowAlike (before before' : List Display) (r r' : Runner κ History) : Prop :=
  ∃ since, r.output.frames = before ++ since ∧ r'.output.frames = before' ++ since

section

variable {before before' : List Display} {r r' s s' : Runner κ History}

theorem ShowAlike.silent (h : ShowAlike before before' r r') (hs : Silent r s)
    (hs' : Silent r' s') : ShowAlike before before' s s' := by
  rw [ShowAlike, hs.output, hs'.output]
  exact h

theorem ShowAlike.updateOutput (h : ShowAlike before before' r r')
    (hmachine : r.machine.untimed = r'.machine.untimed) :
    ShowAlike before before' r.updateOutput r'.updateOutput := by
  obtain ⟨since, hr, hr'⟩ := h
  obtain ⟨timers, hmachine⟩ := Machine.exists_timers_eq hmachine
  refine ⟨since ++ if r.machine.needDraw then [r.machine.display] else [], ?_, ?_⟩
  · rw [frames_updateOutput, hr, List.append_assoc]
  · rw [frames_updateOutput, hr', hmachine, List.append_assoc]

/-- Two runners whose machines agree apart from their timers, and who have shown the same frames. -/
structure AgreeAndShow (before before' : List Display) (r r' : Runner κ History) : Prop where
  agree : AgreeUpTo Machine.untimed r r'
  show_alike : ShowAlike before before' r r'

theorem agreeAndShow_of_silent (h : AgreeAndShow before before' r r')
    {x x' : Except (Halt κ History) (Runner κ History)} (hs : Silent r (Halt.settle x).1)
    (hs' : Silent r' (Halt.settle x').1) (hagree : Parallel (AgreeUpTo Machine.untimed) x x') :
    Parallel (AgreeAndShow before before') x x' := by
  cases hagree with
  | ok hagree => exact .ok ⟨hagree, h.show_alike.silent hs hs'⟩
  | error he hagree => exact .error he ⟨hagree, h.show_alike.silent hs hs'⟩

theorem AgreeAndShow.updateOutput (h : AgreeAndShow before before' r r') :
    AgreeAndShow before before' r.updateOutput r'.updateOutput := by
  refine ⟨?_, h.show_alike.updateOutput h.agree.machine⟩
  rw [updateOutput_eq, updateOutput_eq]
  exact { h.agree with machine := congrArg Machine.markDrawn h.agree.machine }

/-! ### Operations and histories -/

variable [KeySource κ]

theorem not_mem_executed_of_callIncidents {op : RunnerOperation} {i : Instruction}
    (h : .executed i ∉ r.callIncidents op) : i ∉ r.executed op := by
  intro hi
  exact h (List.mem_append_left _ (List.mem_map_of_mem hi))

theorem agree_frame (h : AgreeAndShow before before' r r')
    (hread : ∀ x, .executed (.readDelay x) ∉ r.callIncidents .frame) :
    Parallel (AgreeAndShow before before') r.frame r'.frame := by
  have hwork := agree_frameWork h.agree fun x => not_mem_executed_of_callIncidents (hread x)
  rw [frame_eq, frame_eq]
  exact (agreeAndShow_of_silent h (silent_frameWork r) (silent_frameWork r') hwork).map
    fun _ _ h => h.updateOutput

theorem agree_run (h : AgreeAndShow before before' r r') {n : ℕ}
    (hread : ∀ x, .executed (.readDelay x) ∉ r.runIncidents n) :
    Parallel (AgreeAndShow before before') (r.run n) (r'.run n) := by
  induction n generalizing r r' with
  | zero => exact .ok h
  | succ n ih =>
    rw [runIncidents] at hread
    have hframe := agree_frame h fun x hx => hread x (List.mem_append_left _ hx)
    rw [run_succ, run_succ]
    generalize r.frame = x at hframe hread ⊢
    generalize r'.frame = x' at hframe ⊢
    cases hframe with
    | ok h => exact ih h fun x hx => hread x (List.mem_append_right _ hx)
    | error he h => exact .error he h

/-- An operation that is no edit and executes no instruction that reads the delay timer. -/
theorem agree_perform (h : AgreeAndShow before before' r r') {op : RunnerOperation}
    (hop : op.isEdit = false) (hread : ∀ x, .executed (.readDelay x) ∉ r.incidents op) :
    Parallel (AgreeAndShow before before') (r.perform op) (r'.perform op) := by
  cases op with
  | load program =>
    exact agreeAndShow_of_silent h (silent_load ..) (silent_load ..) (agree_load h.agree program)
  | loadFile path contents =>
    exact agreeAndShow_of_silent h (silent_loadFile ..) (silent_loadFile ..)
      (agree_loadFile h.agree path contents)
  | frame => exact agree_frame h hread
  | run frames => exact agree_run h hread
  | singleStep =>
    have hwork := agree_stepWork h.agree fun x => not_mem_executed_of_callIncidents (hread x)
    rw [perform, perform, singleStep_eq, singleStep_eq]
    exact (agreeAndShow_of_silent h (silent_stepWork r) (silent_stepWork r') hwork).map
      fun _ _ h => h.updateOutput
  | togglePause =>
    refine .ok ⟨?_, h.show_alike.silent ⟨rfl, rfl, rfl⟩ ⟨rfl, rfl, rfl⟩⟩
    exact { h.agree with paused := congrArg not h.agree.paused }
  | reset =>
    exact agreeAndShow_of_silent h (silent_reset r) (silent_reset r') (agree_reset h.agree)
  | edit operation => cases hop

theorem agree_performAll (h : AgreeAndShow before before' r r') {ops : List RunnerOperation}
    (hops : ∀ op ∈ ops, op.isEdit = false)
    (hread : ∀ x, .executed (.readDelay x) ∉ r.timeline ops) :
    (r.transcript ops).map (Prod.map id Machine.untimed)
        = (r'.transcript ops).map (Prod.map id Machine.untimed) ∧
      AgreeAndShow before before' (r.performAll ops) (r'.performAll ops) := by
  induction ops generalizing r r' with
  | nil => exact ⟨rfl, h⟩
  | cons op rest ih =>
    rw [List.forall_mem_cons] at hops
    rw [timeline] at hread
    have hop := agree_perform h hops.1 fun x hx => hread x (List.mem_append_left _ hx)
    obtain ⟨htranscript, hrest⟩ :=
      ih hop.settled hops.2 fun x hx => hread x (List.mem_append_right _ hx)
    refine ⟨?_, hrest⟩
    rw [transcript, transcript, List.map_cons, List.map_cons, htranscript, Prod.map_apply,
      Prod.map_apply, hop.error_eq, hop.settled.agree.machine]

omit [KeySource κ] in
theorem lockstep_showAlike :
    Lockstep fun r r' : Runner κ History => Alike r r' ∧ ShowAlike before before' r r' where
  alike h := h.1
  silent h hs hs' halike := ⟨halike, h.2.silent hs hs'⟩
  updateOutput h :=
    ⟨h.1.updateOutput, h.2.updateOutput (congrArg Machine.untimed h.1.machine)⟩

/-- Settings do not interfere with the work of a runner. Given the same task and the same
operations, two runners that tick their timers alike have the same results, the same machines after
every operation and the same frames shown, whatever else is set. If they tick them at different
times, all this is the same but for the timers themselves, as long as no instruction has been
executed that reads the delay timer. -/
theorem settings_do_not_interfere (h : AgreeUpTo id r r') (ops : List RunnerOperation) :
    let s := r.performAll ops
    let s' := r'.performAll ops
    (r.config.timerMode = r'.config.timerMode →
      r.transcript ops = r'.transcript ops ∧ AgreeUpTo id s s' ∧
        ShowAlike r.output.frames r'.output.frames s s') ∧
    ((∀ op ∈ ops, op.isEdit = false) → (∀ x, .executed (.readDelay x) ∉ r.timeline ops) →
      (r.transcript ops).map (Prod.map id Machine.untimed)
          = (r'.transcript ops).map (Prod.map id Machine.untimed) ∧
        AgreeUpTo Machine.untimed s s' ∧ ShowAlike r.output.frames r'.output.frames s s') := by
  intro s s'
  have hnone : ShowAlike r.output.frames r'.output.frames r r' :=
    ⟨[], (List.append_nil _).symm, (List.append_nil _).symm⟩
  constructor
  · intro hmode
    have hstart : Alike r r' ∧ ShowAlike r.output.frames r'.output.frames r r' :=
      ⟨h.alike hmode, hnone⟩
    have hL : Lockstep fun a a' : Runner κ History =>
        Alike a a' ∧ ShowAlike r.output.frames r'.output.frames a a' := lockstep_showAlike
    obtain ⟨halike, hshown⟩ := hL.performAll hstart ops
    exact ⟨hL.transcript hstart ops, halike.agree, hshown⟩
  · intro hops hread
    obtain ⟨htranscript, hagree, hshown⟩ := agree_performAll ⟨h.untimed, hnone⟩ hops hread
    exact ⟨htranscript, hagree, hshown⟩

end

/-- A frame that ends with setting the delay timer to five leaves it at four if timers tick per
frame and at five if they tick per instruction. Nothing else tells the two runners apart. -/
theorem settings_do_not_interfere_of_timerMode :
    let r := new (Machine.initial (.ofSeed 0)) NoKeys.mk History.empty { clockSpeed := 180 } none
    let r' := new (Machine.initial (.ofSeed 0)) NoKeys.mk History.empty
      { clockSpeed := 180, timerMode := .coupled, mute := true, debug := true } (some .trace)
    let ops : List RunnerOperation := [.load [0x00, 0xE0, 0x60, 5, 0xF0, 0x15], .frame]
    let s := r.performAll ops
    let s' := r'.performAll ops
    AgreeUpTo id r r' ∧
      (r.transcript ops).map (Prod.map id Machine.untimed)
        = (r'.transcript ops).map (Prod.map id Machine.untimed) ∧
      s.output.frames = s'.output.frames ∧ s.output.frames ≠ [] ∧
      s.machine.timers = ⟨4, 0⟩ ∧ s'.machine.timers = ⟨5, 0⟩ := by
  intro r r' ops s s'
  have h : AgreeUpTo id r r' := ⟨rfl, rfl, rfl, rfl, rfl, rfl, rfl⟩
  have hsettled : r.timeline ops
        = [.executed .clearScreen, .executed (.set 0 5), .executed (.setDelay 0), .shown] ∧
      s.output.frames ≠ [] ∧ s.machine.timers = ⟨4, 0⟩ ∧ s'.machine.timers = ⟨5, 0⟩ := by
    unfold s s' r r' ops
    decide +kernel
  obtain ⟨htimeline, hshown, htimers, htimers'⟩ := hsettled
  obtain ⟨-, hdiffer⟩ := settings_do_not_interfere h ops
  have hread : ∀ x, .executed (.readDelay x) ∉ r.timeline ops := by
    rw [htimeline]
    simp
  obtain ⟨htranscript, -, since, hs, hs'⟩ := hdiffer (by unfold ops; decide) hread
  exact ⟨h, htranscript, hs.trans hs'.symm, hshown, htimers, htimers'⟩

end Runner

end Chip8
