import Chip8.Proofs.Machine.Footprint
import Chip8.Proofs.Runner.Sequencing

/-!
# What is on the screen

A frame or a single step that succeeds should leave on the screen what the display holds. Between
two moments of a history without a reset, the display is left alone, or it has been touched and a
frame is due, or a frame has been shown that is still right: this is `Runner.ScreenStep`, which
every operation but a reset satisfies (`screenStep_perform`) and so every history without one
(`screenStep_performAll`).

A reset clears the display and takes back that a frame is due (`screen_reset`). So the screen is
wrong after a frame iff no frame was shown since the last reset and what it shows is not blank
anyway.
-/

namespace Chip8

namespace RunnerOperation

theorem isEdit_of_endsInFrame {op : RunnerOperation} (h : op.endsInFrame) : op.isEdit = false := by
  cases op with
  | edit operation => cases h
  | _ => rfl

theorem ne_reset_of_endsInFrame {op : RunnerOperation} (h : op.endsInFrame) : op ≠ reset := by
  rintro rfl
  cases h

/-- Among operations, a reset is the last one of its kind, unless there is none. -/
theorem exists_last_reset {ops : List RunnerOperation} (h : .reset ∈ ops) :
    ∃ before after, ops = before ++ .reset :: after ∧ reset ∉ after := by
  obtain ⟨after, before, heq, hlast⟩ := List.eq_append_cons_of_mem (List.mem_reverse.2 h)
  refine ⟨before.reverse, after.reverse, ?_, fun h => hlast (List.mem_reverse.1 h)⟩
  rw [← List.reverse_inj, heq]
  simp

end RunnerOperation

namespace Machine

variable {m m' : Machine}

/-- What has happened to the display from `m` to `m'`, if anything has, is marked as not shown yet.
-/
def Marks (m m' : Machine) : Prop :=
  (m'.display = m.display ∧ m'.needDraw = m.needDraw) ∨ m'.needDraw = true

theorem Marks.refl (m : Machine) : Marks m m :=
  .inl ⟨rfl, rfl⟩

theorem marks_of_execute {i : Instruction} (h : m.execute i = .ok m') : Marks m m' := by
  have hfoot := footprint_of_execute h
  cases hi : i.draws with
  | true =>
    right
    rw [hfoot.needDraw, hi, Bool.or_true]
  | false =>
    left
    exact ⟨hfoot.display hi, by rw [hfoot.needDraw, hi, Bool.or_false]⟩

theorem marks_of_cycle (h : m.cycle = .ok m') : Marks m m' := by
  rw [cycle] at h
  split at h
  · exact marks_of_execute h
  · cases h

theorem marks_of_step (h : m.step = .ok m') : Marks m m' := by
  rw [step] at h
  split at h
  · exact marks_of_execute (m := m.tick) h
  · cases h

end Machine

namespace Runner

variable {κ : Type}

/-- What the screen shows: the last frame, and nothing before there was one. -/
def shown (r : Runner κ History) : Display :=
  r.output.lastFrame?.getD .blank

/-- How the screen and the display can change from `r` to `r'` unless there is a reset. -/
structure ScreenStep (r r' : Runner κ History) : Prop where
  le : r.output.frames.length ≤ r'.output.frames.length
  change :
    (r'.output.frames = r.output.frames ∧ r'.machine.display = r.machine.display ∧
      r'.machine.needDraw = r.machine.needDraw) ∨
    r'.machine.needDraw = true ∨
    (r.output.frames.length < r'.output.frames.length ∧ r'.shown = r'.machine.display)

namespace ScreenStep

variable {r r' r'' : Runner κ History}

theorem refl (r : Runner κ History) : ScreenStep r r :=
  ⟨Nat.le_refl _, .inl ⟨rfl, rfl, rfl⟩⟩

theorem trans (h : ScreenStep r r') (h' : ScreenStep r' r'') : ScreenStep r r'' := by
  refine ⟨Nat.le_trans h.le h'.le, ?_⟩
  -- what happened last decides, unless that is nothing
  rcases h'.change with ⟨hframes', hdisplay', hdraw'⟩ | hdraw' | ⟨hlt', hshown'⟩
  · rcases h.change with ⟨hframes, hdisplay, hdraw⟩ | hdraw | ⟨hlt, hshown⟩
    · exact .inl ⟨hframes'.trans hframes, hdisplay'.trans hdisplay, hdraw'.trans hdraw⟩
    · exact .inr (.inl (hdraw'.trans hdraw))
    · refine .inr (.inr ⟨by rwa [hframes'], ?_⟩)
      rw [hdisplay', ← hshown, shown, shown, History.lastFrame?, hframes', History.lastFrame?]
  · exact .inr (.inl hdraw')
  · exact .inr (.inr ⟨Nat.lt_of_le_of_lt h.le hlt', hshown'⟩)

/-- Where no frame is shown, only what happens to the machine counts. -/
theorem of_machine (hframes : r'.output.frames = r.output.frames)
    (hm : r.machine.Marks r'.machine) : ScreenStep r r' := by
  refine ⟨Nat.le_of_eq (congrArg List.length hframes.symm), ?_⟩
  rcases hm with ⟨hdisplay, hdraw⟩ | hdraw
  · exact .inl ⟨hframes, hdisplay, hdraw⟩
  · exact .inr (.inl hdraw)

/-- A sequence changes the screen as its parts do. -/
theorem bind {x : Except (Halt κ History) (Runner κ History)}
    {f : Runner κ History → Except (Halt κ History) (Runner κ History)}
    (h : ScreenStep r (Halt.settle x).1)
    (hf : ∀ r', x = .ok r' → ScreenStep r' (Halt.settle (f r')).1) :
    ScreenStep r (Halt.settle (x.bind f)).1 :=
  Halt.settle_bind_of_trans (R := ScreenStep) trans h hf

theorem map {x : Except (Halt κ History) (Runner κ History)}
    {f : Runner κ History → Runner κ History} (h : ScreenStep r (Halt.settle x).1)
    (hf : ∀ r', ScreenStep r' (f r')) : ScreenStep r (Halt.settle (x.map f)).1 :=
  Halt.settle_map_of_trans (R := ScreenStep) trans h hf

/-- Where no frame was due and the screen was right to begin with, it is right after an operation
that ends with a frame. -/
theorem shown_or_untouched (h : ScreenStep r r')
    (hdraw : r'.machine.needDraw = false) :
    (r'.output.frames = r.output.frames ∧ r'.machine.display = r.machine.display) ∨
      (r.output.frames.length < r'.output.frames.length ∧ r'.shown = r'.machine.display) := by
  rcases h.change with ⟨hframes, hdisplay, -⟩ | hdraw' | hshown
  · exact .inl ⟨hframes, hdisplay⟩
  · rw [hdraw] at hdraw'
    cases hdraw'
  · exact .inr hshown

end ScreenStep

/-! ### Single instructions -/

variable {r r' : Runner κ History}

theorem screenStep_noteState (r : Runner κ History) : ScreenStep r r.noteState := by
  rw [noteState]
  split
  · exact .of_machine rfl (.refl _)
  · exact .refl r

theorem screenStep_attempt {result : Except Fault Machine}
    (h : ∀ m', result = .ok m' → r.machine.Marks m') :
    ScreenStep r (Halt.settle (r.attempt result)).1 := by
  cases result with
  | ok m' => exact .of_machine rfl (h m' rfl)
  | error f => exact .of_machine rfl (.refl _)

theorem screenStep_executeOne (r : Runner κ History) :
    ScreenStep r (Halt.settle r.executeOne).1 := by
  rw [executeOne]
  cases r.config.timerMode with
  | coupled =>
    refine (screenStep_noteState r).trans (screenStep_attempt fun m' h => ?_)
    rw [machine_noteState]
    exact Machine.marks_of_step h
  | decoupled =>
    refine (screenStep_noteState r).trans (screenStep_attempt fun m' h => ?_)
    rw [machine_noteState]
    exact Machine.marks_of_cycle h

theorem screenStep_executeMany (r : Runner κ History) (n : Nat) :
    ScreenStep r (Halt.settle (r.executeMany n)).1 := by
  induction n generalizing r with
  | zero => exact .refl r
  | succ n ih =>
    have hpaid : ScreenStep r { r with budget := r.budget.spend } :=
      .of_machine rfl (.refl _)
    rw [executeMany_succ]
    exact (hpaid.trans (screenStep_executeOne _)).bind fun r' _ => ih r'

/-! ### Programs -/

theorem screenStep_load (r : Runner κ History) (program : List UInt8) :
    ScreenStep r (Halt.settle (r.load program)).1 := by
  rw [load, Machine.load]
  cases r.machine.memory.load program with
  | ok memory => exact .of_machine rfl (.refl _)
  | error e => exact .refl r

/-- A reset clears the display, and tells neither the output device nor the next frame. -/
theorem screen_reset (r : Runner κ History) :
    (Halt.settle r.reset).1.output = r.output ∧
      (Halt.settle r.reset).1.machine.display = .blank ∧
      (Halt.settle r.reset).1.machine.needDraw = false := by
  rw [reset, load, Machine.load]
  cases ({ r with machine := r.machine.reset }.note .resetting).machine.memory.load r.program with
  | ok memory => exact ⟨rfl, rfl, rfl⟩
  | error e => exact ⟨rfl, rfl, rfl⟩

/-! ### Frames -/

theorem frames_updateSound (r : Runner κ History) :
    r.updateSound.output.frames = r.output.frames := by
  rw [updateSound]
  split
  · rfl
  · simp [OutputDevice.sound, History.frames, OutputEvent.frame?]

theorem frames_updateScreen (h : r.machine.needDraw = true) :
    r.updateScreen.output.frames = r.output.frames ++ [r.machine.display] := by
  rw [updateScreen, if_pos h]
  simp [OutputDevice.present, History.frames, OutputEvent.frame?]

theorem display_updateScreen (r : Runner κ History) :
    r.updateScreen.machine.display = r.machine.display ∧
      r.updateScreen.machine.needDraw = false := by
  rw [updateScreen]
  split
  · exact ⟨rfl, rfl⟩
  · next h => exact ⟨rfl, Bool.eq_false_iff.2 h⟩

theorem screenStep_updateScreen (r : Runner κ History) : ScreenStep r r.updateScreen := by
  -- the frame that is shown is the display, so the screen is right from here on
  by_cases h : r.machine.needDraw = true
  · have hframes := frames_updateScreen h
    have hlt : r.output.frames.length < r.updateScreen.output.frames.length := by
      rw [hframes, List.length_append]
      exact Nat.lt_add_one _
    refine ⟨Nat.le_of_lt hlt, .inr (.inr ⟨hlt, ?_⟩)⟩
    rw [shown, History.lastFrame?, hframes, List.getLast?_concat, (display_updateScreen r).1]
    rfl
  · rw [updateScreen, if_neg h]
    exact .refl r

theorem screenStep_updateOutput (r : Runner κ History) : ScreenStep r r.updateOutput := by
  have hsound : ScreenStep r r.updateSound := by
    refine .of_machine (frames_updateSound r) (.inl ?_)
    rw [updateSound]
    split
    · exact ⟨rfl, rfl⟩
    · exact ⟨rfl, rfl⟩
  exact hsound.trans (screenStep_updateScreen _)

theorem needDraw_updateOutput (r : Runner κ History) :
    r.updateOutput.machine.needDraw = false :=
  (display_updateScreen _).2

theorem screenStep_tickFrame (r : Runner κ History) : ScreenStep r r.tickFrame := by
  rw [tickFrame]
  cases r.config.timerMode with
  | coupled => exact .refl r
  | decoupled => exact .of_machine rfl (.refl _)

theorem screenStep_play (r : Runner κ History) : ScreenStep r (Halt.settle r.play).1 := by
  have howe : ScreenStep r r.owe :=
    .of_machine (by rw [output_owe]) (by rw [machine_owe]; exact .refl _)
  rw [play]
  exact (howe.trans (screenStep_executeMany _ _)).map screenStep_tickFrame

section

variable [KeySource κ]

theorem screenStep_frame (r : Runner κ History) : ScreenStep r (Halt.settle r.frame).1 := by
  have hpoll : ScreenStep r r.pollKeys := .of_machine rfl (.refl _)
  cases hpaused : r.paused with
  | true =>
    rw [frame_of_paused hpaused]
    exact hpoll.trans (screenStep_updateOutput _)
  | false =>
    rw [frame_of_not_paused hpaused]
    exact (hpoll.trans (screenStep_play _)).map screenStep_updateOutput

theorem screenStep_run (r : Runner κ History) (n : Nat) :
    ScreenStep r (Halt.settle (r.run n)).1 := by
  induction n generalizing r with
  | zero => exact .refl r
  | succ n ih =>
    rw [run_succ]
    exact (screenStep_frame r).bind fun r' _ => ih r'

theorem screenStep_singleStep (r : Runner κ History) :
    ScreenStep r (Halt.settle r.singleStep).1 := by
  have hpoll : ScreenStep r r.pollKeys := .of_machine rfl (.refl _)
  have hattempt : ScreenStep r.pollKeys
      (Halt.settle (r.pollKeys.noteState.attempt r.pollKeys.machine.step)).1 := by
    refine (screenStep_noteState _).trans (screenStep_attempt fun m' h => ?_)
    rw [machine_noteState]
    exact Machine.marks_of_step h
  rw [singleStep_eq]
  exact (hpoll.trans hattempt).map screenStep_updateOutput

/-! ### Histories -/

/-- An operation that is no reset changes the screen as `ScreenStep` says. -/
theorem screenStep_perform (r : Runner κ History) {op : RunnerOperation} (hedit : op.isEdit = false)
    (hreset : op ≠ .reset) : ScreenStep r (Halt.settle (r.perform op)).1 := by
  cases op with
  | load program => exact screenStep_load r program
  | loadFile path contents =>
    cases contents with
    | ok program =>
      have hnote : ScreenStep r (r.note (.executing path)) := .of_machine rfl (.refl _)
      exact hnote.trans (screenStep_load _ program)
    | error reason => exact .refl r
  | frame => exact screenStep_frame r
  | run frames => exact screenStep_run r frames
  | singleStep => exact screenStep_singleStep r
  | togglePause => exact .of_machine rfl (.refl _)
  | reset => exact absurd rfl hreset
  | edit operation => cases hedit

theorem screenStep_performAll (r : Runner κ History) {ops : List RunnerOperation}
    (hedit : ∀ op ∈ ops, op.isEdit = false) (hreset : .reset ∉ ops) :
    ScreenStep r (r.performAll ops) := by
  induction ops generalizing r with
  | nil => exact .refl r
  | cons op rest ih =>
    rw [List.forall_mem_cons] at hedit
    rw [List.mem_cons, not_or] at hreset
    exact (screenStep_perform r hedit.1 (Ne.symm hreset.1)).trans (ih _ hedit.2 hreset.2)

/-! ### Right after a frame -/

theorem needDraw_of_frame (h : r.frame = .ok r') : r'.machine.needDraw = false := by
  cases hpaused : r.paused with
  | true =>
    rw [frame_of_paused hpaused] at h
    cases h
    exact needDraw_updateOutput _
  | false =>
    rw [frame_of_not_paused hpaused] at h
    obtain ⟨played, -, rfl⟩ := exists_of_map_eq_ok h
    exact needDraw_updateOutput _

theorem needDraw_of_run {n : Nat} (h : r.run n = .ok r') (hn : n ≠ 0) :
    r'.machine.needDraw = false := by
  induction n generalizing r with
  | zero => exact absurd rfl hn
  | succ n ih =>
    rw [run_succ] at h
    obtain ⟨next, hframe, hrest⟩ := exists_of_bind_eq_ok h
    cases n with
    | zero =>
      cases hrest
      exact needDraw_of_frame hframe
    | succ n => exact ih hrest (Nat.succ_ne_zero n)

theorem needDraw_of_singleStep (h : r.singleStep = .ok r') : r'.machine.needDraw = false := by
  rw [singleStep_eq] at h
  obtain ⟨stepped, -, rfl⟩ := exists_of_map_eq_ok h
  exact needDraw_updateOutput _

/-- No frame is due after an operation that ends with one. -/
theorem needDraw_of_perform {op : RunnerOperation} (hop : op.endsInFrame)
    (h : r.perform op = .ok r') : r'.machine.needDraw = false := by
  cases op with
  | frame => exact needDraw_of_frame h
  | run frames => exact needDraw_of_run h (bne_iff_ne.1 hop)
  | singleStep => exact needDraw_of_singleStep h
  | _ => cases hop

theorem performAll_append (r : Runner κ History) (before after : List RunnerOperation) :
    r.performAll (before ++ after) = (r.performAll before).performAll after :=
  List.foldl_append

/-- The screen is right after a frame of a runner that has just been made, unless the last reset
cleared a display that is on the screen still: no frame was shown since, and the last one before it
was not blank. -/
theorem shown_eq_display_iff (random : RandomSource) (keys : κ) (config : Config)
    (threshold : Option Severity) {ops : List RunnerOperation} {op : RunnerOperation}
    (hedit : ∀ op ∈ ops, op.isEdit = false) (hop : op.endsInFrame) :
    let start := new (Machine.initial random) keys History.empty config threshold
    (start.performAll ops).perform op = .ok r' →
    (r'.shown = r'.machine.display ↔
      r'.shown = .blank ∨
        ¬∃ before after, ops = before ++ .reset :: after ∧ RunnerOperation.reset ∉ after ∧
          (start.performAll before).output.frames.length = r'.output.frames.length) := by
  intro start h
  have hdraw := needDraw_of_perform hop h
  have hlast : ScreenStep (start.performAll ops) r' := by
    have hperform : ScreenStep _ (Halt.settle ((start.performAll ops).perform op)).1 :=
      screenStep_perform _ (RunnerOperation.isEdit_of_endsInFrame hop)
        (RunnerOperation.ne_reset_of_endsInFrame hop)
    rwa [h] at hperform
  -- from a reset on, the display is blank until a frame is shown that is right
  have hsince : ∀ before after, ops = before ++ .reset :: after → .reset ∉ after →
      (r'.output.frames = (start.performAll before).output.frames ∧
        r'.machine.display = .blank) ∨
      ((start.performAll before).output.frames.length < r'.output.frames.length ∧
        r'.shown = r'.machine.display) := by
    intro before after hops hafter
    obtain ⟨houtput, hdisplay, -⟩ := screen_reset (start.performAll before)
    rw [hops, List.forall_mem_append, List.forall_mem_cons] at hedit
    rw [hops, performAll_append] at hlast
    have hstep := (screenStep_performAll _ hedit.2.2 hafter).trans hlast
    rw [← houtput, ← hdisplay]
    exact hstep.shown_or_untouched hdraw
  constructor
  · intro hright
    by_cases hblank : r'.shown = .blank
    · exact .inl hblank
    · right
      rintro ⟨before, after, hops, hafter, hlen⟩
      rcases hsince before after hops hafter with ⟨-, hdisplay⟩ | ⟨hlt, -⟩
      · exact hblank (hright.trans hdisplay)
      · exact absurd hlen (Nat.ne_of_lt hlt)
  · intro hor
    by_cases hreset : .reset ∈ ops
    · obtain ⟨before, after, hops, hafter⟩ := RunnerOperation.exists_last_reset hreset
      rcases hsince before after hops hafter with ⟨hframes, hdisplay⟩ | ⟨-, hshown⟩
      · rcases hor with hblank | hno
        · rw [hblank, hdisplay]
        · exact absurd ⟨before, after, hops, hafter, congrArg List.length hframes.symm⟩ hno
      · exact hshown
    · -- without a reset, the screen has been right since it and the display were both blank
      have hstep := (screenStep_performAll start hedit hreset).trans hlast
      rcases hstep.shown_or_untouched hdraw with ⟨hframes, hdisplay⟩ | ⟨-, hshown⟩
      · rw [hdisplay, shown, History.lastFrame?, hframes]
        rfl
      · exact hshown

end

/-- A glyph that was shown before a reset is on the screen still after the next instruction, but not
on the display any more. -/
theorem shown_ne_display_of_glyph :
    let start := new (Machine.initial (.ofSeed 0)) NoKeys.mk .empty {} none
    let before : List RunnerOperation := [.load [0x60, 0x00, 0xD0, 0x01], .singleStep, .singleStep]
    ∃ r', (start.performAll (before ++ [.reset])).perform .singleStep = .ok r' ∧
      r'.shown ≠ r'.machine.display := by
  intro start before
  have hsettled :
      let settled := Halt.settle ((start.performAll (before ++ [.reset])).perform .singleStep)
      settled.2.isNone = true ∧ settled.1.shown.lit ⟨0, 0⟩ = true ∧
        (start.performAll before).output.frames.length = settled.1.output.frames.length := by
    unfold start before
    decide +kernel
  cases he : (start.performAll (before ++ [.reset])).perform .singleStep with
  | ok r' =>
    rw [he] at hsettled
    have hlit : r'.shown.lit ⟨0, 0⟩ = true := hsettled.2.1
    refine ⟨r', rfl, fun hright => ?_⟩
    have hedit : ∀ op ∈ before ++ [.reset], op.isEdit = false := by
      unfold before
      decide
    rcases (shown_eq_display_iff _ _ _ _ hedit rfl he).1 hright with hblank | hno
    · rw [hblank, Display.lit_blank] at hlit
      cases hlit
    · exact hno ⟨before, [], rfl, nofun, hsettled.2.2⟩
  | error halt =>
    rw [he] at hsettled
    cases hsettled.1

end Runner

end Chip8
