import Chip8.Proofs.Runner.Plan

/-!
# Two runners in lockstep

The output device of a runner is only ever told something when a frame or a single step has
succeeded, and then in one go (`updateOutput_eq`). Everything else that a runner does is silent:
`Runner.Silent` is the relation between a runner and what such a piece of work leaves.

What a runner does to its machine depends neither on its output device nor on what it reports.
`Runner.Alike` relates two runners that differ in nothing else, and silent work does the same to
both. So a relation between two runners is kept by every operation if it is by silent work and by
telling the output devices; such a relation is a `Runner.Lockstep`. What can be said about a single
runner in these terms holds after every history (`performAll_of_silent`).
-/

namespace Chip8

namespace Runner

variable {κ ω ω' : Type}

/-! ### Silent work -/

/-- Nothing has been told to the output device from `r` to `s`, and the settings are the same. -/
structure Silent (r s : Runner κ ω) : Prop where
  output : s.output = r.output
  soundOn : s.soundOn = r.soundOn
  config : s.config = r.config

namespace Silent

variable {r s t : Runner κ ω}

theorem refl (r : Runner κ ω) : Silent r r :=
  ⟨rfl, rfl, rfl⟩

theorem trans (h : Silent r s) (h' : Silent s t) : Silent r t :=
  ⟨h'.output.trans h.output, h'.soundOn.trans h.soundOn, h'.config.trans h.config⟩

/-- A sequence is silent if its parts are. -/
theorem bind {x : Except (Halt κ ω) (Runner κ ω)}
    {f : Runner κ ω → Except (Halt κ ω) (Runner κ ω)} (h : Silent r (Halt.settle x).1)
    (hf : ∀ s, Silent s (Halt.settle (f s)).1) : Silent r (Halt.settle (x.bind f)).1 :=
  Halt.settle_bind_of_trans (R := Silent) trans h fun s _ => hf s

theorem map {x : Except (Halt κ ω) (Runner κ ω)} {f : Runner κ ω → Runner κ ω}
    (h : Silent r (Halt.settle x).1) (hf : ∀ s, Silent s (f s)) :
    Silent r (Halt.settle (x.map f)).1 :=
  Halt.settle_map_of_trans (R := Silent) trans h hf

end Silent

theorem silent_noteState (r : Runner κ ω) : Silent r r.noteState := by
  obtain ⟨journal, h⟩ := exists_noteState_eq r
  rw [h]
  exact ⟨rfl, rfl, rfl⟩

theorem silent_attempt (r : Runner κ ω) (result : Except Fault Machine) :
    Silent r (Halt.settle (r.attempt result)).1 := by
  cases result with
  | ok machine => exact ⟨rfl, rfl, rfl⟩
  | error f => exact ⟨rfl, rfl, rfl⟩

theorem silent_executeOne (r : Runner κ ω) : Silent r (Halt.settle r.executeOne).1 := by
  rw [executeOne]
  cases r.config.timerMode with
  | coupled => exact (silent_noteState r).trans (silent_attempt _ _)
  | decoupled => exact (silent_noteState r).trans (silent_attempt _ _)

theorem silent_executeMany (r : Runner κ ω) (n : ℕ) :
    Silent r (Halt.settle (r.executeMany n)).1 := by
  induction n generalizing r with
  | zero => exact .refl r
  | succ n ih =>
    have hpaid : Silent r { r with budget := r.budget.spend } := ⟨rfl, rfl, rfl⟩
    rw [executeMany_succ]
    exact (hpaid.trans (silent_executeOne _)).bind ih

theorem silent_owe (r : Runner κ ω) : Silent r r.owe := by
  rw [owe]
  exact ⟨rfl, rfl, rfl⟩

theorem silent_tickFrame (r : Runner κ ω) : Silent r r.tickFrame := by
  rw [tickFrame]
  cases r.config.timerMode with
  | coupled => exact .refl r
  | decoupled => exact ⟨rfl, rfl, rfl⟩

theorem silent_play (r : Runner κ ω) : Silent r (Halt.settle r.play).1 := by
  rw [play]
  exact ((silent_owe r).trans (silent_executeMany _ _)).map silent_tickFrame

theorem silent_load (r : Runner κ ω) (program : List UInt8) :
    Silent r (Halt.settle (r.load program)).1 := by
  rw [load]
  cases r.machine.load program with
  | ok machine => exact ⟨rfl, rfl, rfl⟩
  | error e => exact .refl r

theorem silent_loadFile (r : Runner κ ω) (path : String)
    (contents : Except ReadError (List UInt8)) :
    Silent r (Halt.settle (r.loadFile path contents)).1 := by
  cases contents with
  | ok program =>
    have hnote : Silent r (r.note (.executing path)) := ⟨rfl, rfl, rfl⟩
    exact hnote.trans (silent_load _ program)
  | error reason => exact .refl r

/-- The same with the machine reset, and that reported. -/
def cleared (r : Runner κ ω) : Runner κ ω :=
  { r with machine := r.machine.reset }.note .resetting

/-- The same with nothing owed and not paused. -/
def unburdened (r : Runner κ ω) : Runner κ ω :=
  { r with budget := .zero, paused := false }

theorem reset_eq (r : Runner κ ω) : r.reset = (r.cleared.load r.program).map unburdened := by
  rw [reset, cleared]
  cases ({ r with machine := r.machine.reset }.note .resetting).load r.program with
  | ok s => rfl
  | error halt => rfl

theorem silent_reset (r : Runner κ ω) : Silent r (Halt.settle r.reset).1 := by
  have hcleared : Silent r r.cleared := ⟨rfl, rfl, rfl⟩
  rw [reset_eq]
  exact (hcleared.trans (silent_load _ r.program)).map fun s => ⟨rfl, rfl, rfl⟩

theorem silent_edit (r : Runner κ ω) (operation : Operation) :
    Silent r (Halt.settle (r.edit operation)).1 := by
  rw [edit]
  cases (r.machine.perform operation).error? with
  | none => exact ⟨rfl, rfl, rfl⟩
  | some error => exact ⟨rfl, rfl, rfl⟩

section

variable [KeySource κ]

theorem silent_pollKeys (r : Runner κ ω) : Silent r r.pollKeys :=
  ⟨rfl, rfl, rfl⟩

/-- What a frame does before it tells the output device. -/
def frameWork (r : Runner κ ω) : Except (Halt κ ω) (Runner κ ω) :=
  if r.paused then .ok r.pollKeys else r.pollKeys.play

/-- What a single step does before it tells the output device. -/
def stepWork (r : Runner κ ω) : Except (Halt κ ω) (Runner κ ω) :=
  r.pollKeys.noteState.attempt r.pollKeys.machine.step

theorem silent_frameWork (r : Runner κ ω) : Silent r (Halt.settle r.frameWork).1 := by
  rw [frameWork]
  split
  · exact silent_pollKeys r
  · exact (silent_pollKeys r).trans (silent_play _)

theorem silent_stepWork (r : Runner κ ω) : Silent r (Halt.settle r.stepWork).1 :=
  ((silent_pollKeys r).trans (silent_noteState _)).trans (silent_attempt _ _)

end

/-! ### Telling the output device -/

/-- What there is to tell the output device, in order: the sound if it has changed, and the display
if it has been touched. -/
def news (r : Runner κ ω) : List OutputEvent :=
  (if r.wantsSound = r.soundOn then [] else [.sound r.wantsSound]) ++
    if r.machine.needDraw then [.present r.machine.display] else []

theorem filterMap_sound?_news (r : Runner κ ω) :
    r.news.filterMap OutputEvent.sound?
      = if r.wantsSound = r.soundOn then [] else [r.wantsSound] := by
  rw [news, List.filterMap_append, apply_ite (List.filterMap OutputEvent.sound?),
    apply_ite (List.filterMap OutputEvent.sound?)]
  cases r.machine.needDraw with
  | true => exact List.append_nil _
  | false => exact List.append_nil _

theorem filterMap_frame?_news (r : Runner κ ω) :
    r.news.filterMap OutputEvent.frame?
      = if r.machine.needDraw then [r.machine.display] else [] := by
  rw [news, List.filterMap_append, apply_ite (List.filterMap OutputEvent.frame?),
    apply_ite (List.filterMap OutputEvent.frame?)]
  split
  · rfl
  · rfl

section

variable [OutputDevice ω]

/-- The output device is told the news, and there are none left. -/
theorem updateOutput_eq (r : Runner κ ω) :
    r.updateOutput =
      { r with
        machine := r.machine.markDrawn
        output := OutputDevice.receiveAll r.output r.news
        soundOn := r.wantsSound } := by
  have hsound : r.updateSound =
      { r with
        output := OutputDevice.receiveAll r.output
          (if r.wantsSound = r.soundOn then [] else [.sound r.wantsSound])
        soundOn := r.wantsSound } := by
    rw [updateSound]
    split
    · next h => rw [h]; rfl
    · rfl
  rw [updateOutput, hsound, updateScreen, news, OutputDevice.receiveAll_append]
  cases hdraw : r.machine.needDraw with
  | true => rfl
  | false =>
    have hmachine : r.machine.markDrawn = r.machine := by rw [Machine.markDrawn, ← hdraw]
    rw [hmachine]
    rfl

theorem machine_updateOutput (r : Runner κ ω) : r.updateOutput.machine = r.machine.markDrawn := by
  rw [updateOutput_eq]

theorem output_updateOutput (r : Runner κ ω) :
    r.updateOutput.output = OutputDevice.receiveAll r.output r.news := by
  rw [updateOutput_eq]

theorem soundOn_updateOutput (r : Runner κ ω) : r.updateOutput.soundOn = r.wantsSound := by
  rw [updateOutput_eq]

theorem config_updateOutput (r : Runner κ ω) : r.updateOutput.config = r.config := by
  rw [updateOutput_eq]

variable [KeySource κ]

theorem frame_eq (r : Runner κ ω) : r.frame = r.frameWork.map updateOutput := by
  rw [frameWork]
  split
  · next h => exact frame_of_paused h
  · next h => exact frame_of_not_paused (Bool.eq_false_iff.2 h)

/-- Only frames and single steps tell the output device anything. -/
theorem silent_perform (r : Runner κ ω) {op : RunnerOperation} (hop : op.endsInFrame = false) :
    Silent r (Halt.settle (r.perform op)).1 := by
  cases op with
  | load program => exact silent_load r program
  | loadFile path contents => exact silent_loadFile r path contents
  | frame => cases hop
  | run frames =>
    cases frames with
    | zero => exact .refl r
    | succ frames => cases hop
  | singleStep => cases hop
  | togglePause => exact ⟨rfl, rfl, rfl⟩
  | reset => exact silent_reset r
  | edit operation => exact silent_edit r operation

end

/-! ### Runners that differ in what is done with their output -/

/-- Two runners that agree in everything that their machines depend on: they may differ in their
output devices, in what has been reported, and in the settings that concern reports and sound. -/
structure Alike (r : Runner κ ω) (r' : Runner κ ω') : Prop where
  machine : r.machine = r'.machine
  keys : r.keys = r'.keys
  program : r.program = r'.program
  budget : r.budget = r'.budget
  paused : r.paused = r'.paused
  clockSpeed : r.config.clockSpeed = r'.config.clockSpeed
  tickRate : r.config.tickRate = r'.config.tickRate
  timerMode : r.config.timerMode = r'.config.timerMode

/-- Two results are parallel if both are errors or neither is, the errors are the same, and the
runners are related. -/
inductive Parallel (P : Runner κ ω → Runner κ ω' → Prop) :
    Except (Halt κ ω) (Runner κ ω) → Except (Halt κ ω') (Runner κ ω') → Prop
  | ok {r : Runner κ ω} {r' : Runner κ ω'} (h : P r r') : Parallel P (.ok r) (.ok r')
  | error {halt : Halt κ ω} {halt' : Halt κ ω'} (he : halt.error = halt'.error)
    (h : P halt.runner halt'.runner) : Parallel P (.error halt) (.error halt')

namespace Parallel

variable {P : Runner κ ω → Runner κ ω' → Prop} {x : Except (Halt κ ω) (Runner κ ω)}
  {x' : Except (Halt κ ω') (Runner κ ω')}

theorem bind (h : Parallel P x x') {f : Runner κ ω → Except (Halt κ ω) (Runner κ ω)}
    {f' : Runner κ ω' → Except (Halt κ ω') (Runner κ ω')}
    (hf : ∀ r r', P r r' → Parallel P (f r) (f' r')) : Parallel P (x.bind f) (x'.bind f') := by
  cases h with
  | ok h => exact hf _ _ h
  | error he h => exact .error he h

theorem map (h : Parallel P x x') {f : Runner κ ω → Runner κ ω} {f' : Runner κ ω' → Runner κ ω'}
    (hf : ∀ r r', P r r' → P (f r) (f' r')) : Parallel P (x.map f) (x'.map f') := by
  cases h with
  | ok h => exact .ok (hf _ _ h)
  | error he h => exact .error he h

theorem settled (h : Parallel P x x') : P (Halt.settle x).1 (Halt.settle x').1 := by
  cases h with
  | ok h => exact h
  | error he h => exact h

/-- What is parallel to a success has succeeded. -/
theorem exists_of_ok {r : Runner κ ω} (h : Parallel P (.ok r) x') : ∃ r', x' = .ok r' ∧ P r r' := by
  cases h with
  | ok h => exact ⟨_, rfl, h⟩

/-- Parallel results have the same error, or none. -/
theorem error_eq (h : Parallel P x x') : (Halt.settle x).2 = (Halt.settle x').2 := by
  cases h with
  | ok h => rfl
  | error he h => exact congrArg some he

end Parallel

variable {r : Runner κ ω} {r' : Runner κ ω'}

theorem Alike.noteState (h : Alike r r') : Alike r.noteState r'.noteState := by
  obtain ⟨journal, hr⟩ := exists_noteState_eq r
  obtain ⟨journal', hr'⟩ := exists_noteState_eq r'
  rw [hr, hr']
  exact { h with }

theorem Alike.attempt (h : Alike r r') (result : Except Fault Machine) :
    Parallel Alike (r.attempt result) (r'.attempt result) := by
  cases result with
  | ok machine => exact .ok { h with machine := rfl }
  | error f => exact .error rfl { h with }

theorem Alike.executeOne (h : Alike r r') : Parallel Alike r.executeOne r'.executeOne := by
  rw [Runner.executeOne, Runner.executeOne, ← h.timerMode, ← h.machine]
  cases r.config.timerMode with
  | coupled => exact h.noteState.attempt _
  | decoupled => exact h.noteState.attempt _

/-- Two runners stay alike if they come to owe the same. -/
theorem Alike.owing (h : Alike r r') (b : Allowance) :
    Alike { r with budget := b } { r' with budget := b } :=
  { h with budget := rfl }

theorem Alike.executeMany (h : Alike r r') (n : ℕ) :
    Parallel Alike (r.executeMany n) (r'.executeMany n) := by
  induction n generalizing r r' with
  | zero => exact .ok h
  | succ n ih =>
    rw [executeMany_succ, executeMany_succ, ← h.budget]
    exact (h.owing r.budget.spend).executeOne.bind fun _ _ h => ih h

theorem Alike.owe (h : Alike r r') : Alike r.owe r'.owe := by
  rw [Runner.owe, Runner.owe, Config.instructionsPerFrame, Config.instructionsPerFrame,
    ← h.budget, ← h.clockSpeed, ← h.tickRate]
  exact h.owing _

theorem Alike.tickFrame (h : Alike r r') : Alike r.tickFrame r'.tickFrame := by
  rw [Runner.tickFrame, Runner.tickFrame, ← h.timerMode]
  cases r.config.timerMode with
  | coupled => exact h
  | decoupled => exact { h with machine := congrArg Machine.tick h.machine }

theorem Alike.play (h : Alike r r') : Parallel Alike r.play r'.play := by
  rw [Runner.play, Runner.play, ← h.owe.budget]
  exact (h.owe.executeMany _).map fun _ _ h => h.tickFrame

theorem Alike.load (h : Alike r r') (program : List UInt8) :
    Parallel Alike (r.load program) (r'.load program) := by
  rw [Runner.load, Runner.load, ← h.machine]
  cases r.machine.load program with
  | ok machine => exact .ok { h with machine := rfl, program := rfl }
  | error e => exact .error rfl h

theorem Alike.loadFile (h : Alike r r') (path : String)
    (contents : Except ReadError (List UInt8)) :
    Parallel Alike (r.loadFile path contents) (r'.loadFile path contents) := by
  cases contents with
  | ok program =>
    have hnote : Alike (r.note (.executing path)) (r'.note (.executing path)) := { h with }
    exact hnote.load program
  | error reason => exact .error rfl h

theorem Alike.cleared (h : Alike r r') : Alike r.cleared r'.cleared :=
  { h with machine := congrArg Machine.reset h.machine }

theorem Alike.unburdened (h : Alike r r') : Alike r.unburdened r'.unburdened :=
  { h with budget := rfl, paused := rfl }

theorem Alike.reset (h : Alike r r') : Parallel Alike r.reset r'.reset := by
  rw [reset_eq, reset_eq, ← h.program]
  exact (h.cleared.load r.program).map fun _ _ h => h.unburdened

theorem Alike.edit (h : Alike r r') (operation : Operation) :
    Parallel Alike (r.edit operation) (r'.edit operation) := by
  rw [Runner.edit, Runner.edit, ← h.machine]
  cases (r.machine.perform operation).error? with
  | none => exact .ok { h with machine := rfl }
  | some error => exact .error rfl { h with machine := rfl }

section

variable [KeySource κ]

theorem Alike.pollKeys (h : Alike r r') : Alike r.pollKeys r'.pollKeys := by
  have hpoll :
      KeySource.poll r.keys r.machine.keypad = KeySource.poll r'.keys r'.machine.keypad := by
    rw [h.keys, h.machine]
  refine { h with machine := ?_, keys := congrArg Prod.snd hpoll }
  exact congrArg₂ (fun m keypad => { m with keypad }) h.machine (congrArg Prod.fst hpoll)

theorem Alike.frameWork (h : Alike r r') : Parallel Alike r.frameWork r'.frameWork := by
  rw [Runner.frameWork, Runner.frameWork, ← h.paused]
  split
  · exact .ok h.pollKeys
  · exact h.pollKeys.play

theorem Alike.stepWork (h : Alike r r') : Parallel Alike r.stepWork r'.stepWork := by
  rw [Runner.stepWork, Runner.stepWork, ← h.pollKeys.machine]
  exact h.pollKeys.noteState.attempt _

end

theorem Alike.updateOutput [OutputDevice ω] [OutputDevice ω'] (h : Alike r r') :
    Alike r.updateOutput r'.updateOutput := by
  rw [updateOutput_eq, updateOutput_eq]
  exact { h with machine := congrArg Machine.markDrawn h.machine }

/-! ### Operations and histories -/

section

variable [OutputDevice ω] [OutputDevice ω'] {P : Runner κ ω → Runner κ ω' → Prop}

/-- What is to be known of a relation between two runners, so that all operations keep it. -/
structure Lockstep (P : Runner κ ω → Runner κ ω' → Prop) : Prop where
  /-- Related runners agree in what their machines depend on. -/
  alike {r : Runner κ ω} {r' : Runner κ ω'} (h : P r r') : Alike r r'
  /-- They stay related while the output devices are told nothing. -/
  silent {r s : Runner κ ω} {r' s' : Runner κ ω'} (h : P r r') (hs : Silent r s)
    (hs' : Silent r' s') (halike : Alike s s') : P s s'
  /-- They stay related when both tell their output devices. -/
  updateOutput {r : Runner κ ω} {r' : Runner κ ω'} (h : P r r') : P r.updateOutput r'.updateOutput

namespace Lockstep

theorem parallel (hL : Lockstep P) (h : P r r') {x : Except (Halt κ ω) (Runner κ ω)}
    {x' : Except (Halt κ ω') (Runner κ ω')} (hs : Silent r (Halt.settle x).1)
    (hs' : Silent r' (Halt.settle x').1) (halike : Parallel Alike x x') : Parallel P x x' := by
  cases halike with
  | ok halike => exact .ok (hL.silent h hs hs' halike)
  | error he halike => exact .error he (hL.silent h hs hs' halike)

variable [KeySource κ]

theorem frame (hL : Lockstep P) (h : P r r') : Parallel P r.frame r'.frame := by
  rw [frame_eq, frame_eq]
  exact (hL.parallel h (silent_frameWork r) (silent_frameWork r') (hL.alike h).frameWork).map
    fun _ _ h => hL.updateOutput h

theorem singleStep (hL : Lockstep P) (h : P r r') : Parallel P r.singleStep r'.singleStep := by
  rw [singleStep_eq, singleStep_eq]
  exact (hL.parallel h (silent_stepWork r) (silent_stepWork r') (hL.alike h).stepWork).map
    fun _ _ h => hL.updateOutput h

theorem run (hL : Lockstep P) (h : P r r') (n : ℕ) : Parallel P (r.run n) (r'.run n) := by
  induction n generalizing r r' with
  | zero => exact .ok h
  | succ n ih =>
    rw [run_succ, run_succ]
    exact (hL.frame h).bind fun _ _ h => ih h

/-- Every operation does related things to both runners. -/
theorem perform (hL : Lockstep P) (h : P r r') (op : RunnerOperation) :
    Parallel P (r.perform op) (r'.perform op) := by
  have halike := hL.alike h
  cases op with
  | load program => exact hL.parallel h (silent_load ..) (silent_load ..) (halike.load program)
  | loadFile path contents =>
    exact hL.parallel h (silent_loadFile ..) (silent_loadFile ..) (halike.loadFile path contents)
  | frame => exact hL.frame h
  | run frames => exact hL.run h frames
  | singleStep => exact hL.singleStep h
  | togglePause =>
    refine .ok (hL.silent h ⟨rfl, rfl, rfl⟩ ⟨rfl, rfl, rfl⟩ ?_)
    exact { halike with paused := congrArg not halike.paused }
  | reset => exact hL.parallel h (silent_reset r) (silent_reset r') halike.reset
  | edit operation =>
    exact hL.parallel h (silent_edit ..) (silent_edit ..) (halike.edit operation)

/-- Every history keeps the runners related. -/
theorem performAll (hL : Lockstep P) (h : P r r') (ops : List RunnerOperation) :
    P (r.performAll ops) (r'.performAll ops) := by
  induction ops generalizing r r' with
  | nil => exact h
  | cons op rest ih => exact ih (hL.perform h op).settled

end Lockstep

theorem lockstep_alike : Lockstep (Alike : Runner κ ω → Runner κ ω' → Prop) where
  alike h := h
  silent _ _ _ h := h
  updateOutput h := h.updateOutput

omit [OutputDevice ω'] in
/-- What holds of a runner holds after every history if silent work keeps it and telling the output
device does. -/
theorem performAll_of_silent [KeySource κ] {I : Runner κ ω → Prop}
    (hsilent : ∀ {r s}, I r → Silent r s → I s) (hupdate : ∀ {r}, I r → I r.updateOutput)
    (h : I r) (ops : List RunnerOperation) : I (r.performAll ops) := by
  -- a runner beside itself
  have hL : Lockstep fun r r' : Runner κ ω => Alike r r' ∧ I r := {
    alike := fun h => h.1
    silent := fun h hs _ halike => ⟨halike, hsilent h.2 hs⟩
    updateOutput := fun h => ⟨h.1.updateOutput, hupdate h.2⟩ }
  exact (hL.performAll ⟨⟨rfl, rfl, rfl, rfl, rfl, rfl, rfl, rfl⟩, h⟩ ops).2

end

/-! ### What an output device is told -/

section

variable [OutputDevice ω] {output : ω}

/-- A runner with a history for its output device, beside one with a device that has been told all
that this history remembers. -/
structure Mirrored (output : ω) (r : Runner κ History) (r' : Runner κ ω) : Prop where
  alike : Alike r r'
  mute : r.config.mute = r'.config.mute
  soundOn : r.soundOn = r'.soundOn
  output_eq : r'.output = r.output.replay output

theorem Mirrored.wantsSound {r : Runner κ History} {r' : Runner κ ω} (h : Mirrored output r r') :
    r.wantsSound = r'.wantsSound := by
  rw [Runner.wantsSound, Runner.wantsSound, h.mute, h.alike.machine]

theorem Mirrored.news {r : Runner κ History} {r' : Runner κ ω} (h : Mirrored output r r') :
    r.news = r'.news := by
  rw [Runner.news, Runner.news, h.wantsSound, h.soundOn, h.alike.machine]

theorem lockstep_mirrored : Lockstep (Mirrored output : Runner κ History → Runner κ ω → Prop) where
  alike h := h.alike
  silent h hs hs' halike :=
    { alike := halike
      mute := by rw [hs.config, hs'.config, h.mute]
      soundOn := by rw [hs.soundOn, hs'.soundOn, h.soundOn]
      output_eq := by rw [hs.output, hs'.output, h.output_eq] }
  updateOutput {r r'} h :=
    { alike := h.alike.updateOutput
      mute := by rw [config_updateOutput, config_updateOutput, h.mute]
      soundOn := by rw [soundOn_updateOutput, soundOn_updateOutput, h.wantsSound]
      output_eq := by
        rw [output_updateOutput, output_updateOutput, History.replay_receiveAll, ← h.output_eq,
          h.news] }

/-- What an output device is told does not depend on the device, so a history stands for them all.
-/
theorem output_eq_replay [KeySource κ] (machine : Machine) (keys : κ) (output : ω) (config : Config)
    (threshold : Option Severity) (ops : List RunnerOperation) :
    let told := (new machine keys History.empty config threshold).performAll ops
    ((new machine keys output config threshold).performAll ops).output
      = told.output.replay output := by
  intro told
  have hstart : Mirrored output (new machine keys History.empty config threshold)
      (new machine keys output config threshold) :=
    ⟨⟨rfl, rfl, rfl, rfl, rfl, rfl, rfl, rfl⟩, rfl, rfl, rfl⟩
  exact (lockstep_mirrored.performAll hstart ops).output_eq

/-- An operation that ends in a frame or in a single step tells the output device at its end. -/
theorem exists_updateOutput_eq [KeySource κ] {r r' : Runner κ ω} {op : RunnerOperation}
    (hop : op.endsInFrame) (h : r.perform op = .ok r') : ∃ s, updateOutput s = r' := by
  have hframe : ∀ {r r' : Runner κ ω}, r.frame = .ok r' → ∃ s, updateOutput s = r' := by
    intro r r' h
    rw [frame_eq] at h
    obtain ⟨s, -, hs⟩ := exists_of_map_eq_ok h
    exact ⟨s, hs⟩
  cases op with
  | frame => exact hframe h
  | singleStep =>
    rw [perform, singleStep_eq] at h
    obtain ⟨s, -, hs⟩ := exists_of_map_eq_ok h
    exact ⟨s, hs⟩
  | run frames =>
    rw [perform] at h
    induction frames generalizing r with
    | zero => cases hop
    | succ n ih =>
      rw [run_succ] at h
      obtain ⟨next, hfirst, hrest⟩ := exists_of_bind_eq_ok h
      cases n with
      | zero =>
        cases hrest
        exact hframe hfirst
      | succ n => exact ih rfl hrest
  | _ => cases hop

end

end Runner

end Chip8
