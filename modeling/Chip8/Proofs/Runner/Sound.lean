import Chip8.Proofs.Runner.Lockstep
import Chip8.Terminal.Canvas

/-!
# The beep

A runner remembers whether its output device was last told to beep, and tells it something only when
that has to change. So the device is told to start, to stop, to start and so on, and after a frame
the beep is on iff the sound timer runs and the runner is not muted: `SoundIsTold` is what every
operation keeps, whether it succeeds or not.

A terminal rings its bell whenever it is told to start, which in an alternating signal is whenever
the beep changes from off to on (`startsOf_alternating`).
-/

namespace Chip8

/-! ### Alternating signals -/

/-- The first `n` values of a signal that changes each time, `first` being the first of them. -/
def alternating (first : Bool) : ℕ → List Bool
  | 0 => []
  | n + 1 => first :: alternating (!first) n

/-- How often a signal changes from off to on, `before` being the state before it. -/
def startsOf (before : Bool) : List Bool → ℕ
  | [] => 0
  | on :: rest => (if before = false ∧ on = true then 1 else 0) + startsOf on rest

/-- One value more is the opposite of the last one. -/
theorem alternating_succ (first : Bool) (n : ℕ) :
    alternating first (n + 1)
      = alternating first n ++ [!(alternating first n).getLast?.getD (!first)] := by
  induction n generalizing first with
  | zero => cases first <;> rfl
  | succ n ih =>
    have hlast : (alternating first (n + 1)).getLast?.getD (!first)
        = (alternating (!first) n).getLast?.getD (!!first) := by
      rw [alternating, List.getLast?_cons, Option.getD_some, Bool.not_not]
    rw [hlast, alternating, ih (!first), alternating, List.cons_append]

/-- A signal that alternates changes from off to on whenever it is told to be on. -/
theorem startsOf_alternating (first : Bool) (n : ℕ) :
    startsOf (!first) (alternating first n) = (alternating first n).count true := by
  induction n generalizing first with
  | zero => rfl
  | succ n ih =>
    have hrest := ih (!first)
    rw [Bool.not_not] at hrest
    rw [alternating, startsOf, hrest, List.count_cons, Nat.add_comm]
    cases first with
    | true => rfl
    | false => rfl

/-! ### The bell of a terminal -/

namespace Terminal

theorem count_bell_redraw (old new : Display) : (redraw old new).count .bell = 0 := by
  refine List.count_eq_zero.2 fun h => ?_
  obtain ⟨p, -, hp⟩ := List.mem_flatMap.1 h
  simp [drawPixel] at hp

namespace Canvas

/-- How often the bell has been rung. -/
def bells (c : Canvas) : ℕ :=
  c.actions.toList.count .bell

theorem bells_present (c : Canvas) (frame : Display) : (c.present frame).bells = c.bells := by
  have hactions : (c.present frame).actions.toList = c.actions.toList ++ redraw c.shown frame :=
    Array.toList_appendList
  rw [bells, hactions, List.count_append, count_bell_redraw, Nat.add_zero, bells]

theorem bells_sound (c : Canvas) (on : Bool) :
    (c.sound on).bells = c.bells + if on && !c.mute then 1 else 0 := by
  rw [sound]
  split
  · rw [bells, Array.toList_push, List.count_append, List.count_singleton_self, bells]
  · rfl

theorem mute_sound (c : Canvas) (on : Bool) : (c.sound on).mute = c.mute := by
  rw [sound]
  split
  · rfl
  · rfl

/-- The bell is rung whenever the beep is started, unless muted. -/
theorem bells_receiveAll (c : Canvas) (events : List OutputEvent) :
    (OutputDevice.receiveAll c events).bells
      = c.bells + (events.filterMap OutputEvent.sound?).countP (· && !c.mute) := by
  induction events generalizing c with
  | nil => rfl
  | cons event rest ih =>
    refine (ih (OutputDevice.receive c event)).trans ?_
    cases event with
    | present frame => exact congrArg (· + _) (bells_present c frame)
    | sound on =>
      have hsounds : (OutputEvent.sound on :: rest).filterMap OutputEvent.sound?
          = on :: rest.filterMap OutputEvent.sound? := rfl
      show (c.sound on).bells + List.countP (· && !(c.sound on).mute) _ = _
      rw [hsounds, bells_sound, mute_sound, List.countP_cons, Nat.add_assoc,
        Nat.add_comm (List.countP _ _)]

end Canvas

end Terminal

namespace Runner

variable {κ : Type}

/-! ### What is told about the beep -/

/-- With the settings `c`, the output device has been told to start and stop in turns, and the
runner knows what it was told last. If muted, that is nothing. -/
structure SoundIsTold (c : Config) (r : Runner κ History) : Prop where
  config : r.config = c
  alternates : r.output.sounds = alternating true r.output.sounds.length
  soundOn : r.output.soundOn = r.soundOn
  muted : c.mute = true → r.output.sounds = []

namespace SoundIsTold

variable {c : Config} {r : Runner κ History}

theorem updateOutput (h : SoundIsTold c r) : SoundIsTold c r.updateOutput := by
  have hsounds : r.updateOutput.output.sounds
      = r.output.sounds ++ if r.wantsSound = r.soundOn then [] else [r.wantsSound] := by
    rw [output_updateOutput, History.sounds_receiveAll, filterMap_sound?_news]
  have hon := soundOn_updateOutput r
  have hconfig : r.updateOutput.config = c := (config_updateOutput r).trans h.config
  by_cases hsame : r.wantsSound = r.soundOn
  · -- there is nothing to tell
    rw [if_pos hsame, List.append_nil] at hsounds
    refine ⟨hconfig, ?_, ?_, ?_⟩
    · rw [hsounds]
      exact h.alternates
    · rw [History.soundOn, hsounds, hon, hsame]
      exact h.soundOn
    · rw [hsounds]
      exact h.muted
  · -- what is told is the opposite of what was told last
    rw [if_neg hsame] at hsounds
    have hopposite : r.wantsSound = !r.output.soundOn := by
      rw [h.soundOn]
      exact Bool.eq_not_of_ne hsame
    refine ⟨hconfig, ?_, ?_, ?_⟩
    · rw [hsounds, List.length_append, List.length_singleton, alternating_succ, ← h.alternates,
        hopposite]
      rfl
    · rw [History.soundOn, hsounds, List.getLast?_concat, hon]
      rfl
    · -- nothing was told, so the beep is off and should be
      intro hmute
      refine absurd ?_ hsame
      rw [← h.soundOn, History.soundOn, h.muted hmute, wantsSound, h.config, hmute]
      rfl

theorem of_silent {s : Runner κ History} (h : SoundIsTold c r) (hs : Silent r s) :
    SoundIsTold c s := by
  refine ⟨hs.config.trans h.config, ?_, ?_, ?_⟩
  · rw [hs.output]
    exact h.alternates
  · rw [hs.output, hs.soundOn]
    exact h.soundOn
  · rw [hs.output]
    exact h.muted

variable [KeySource κ]

theorem performAll (h : SoundIsTold c r) (ops : List RunnerOperation) :
    SoundIsTold c (r.performAll ops) :=
  performAll_of_silent of_silent updateOutput h ops

/-- After a frame or a single step, the beep is on iff the sound timer runs, unless muted. -/
theorem soundOn_of_perform {r' : Runner κ History} {op : RunnerOperation} (h : SoundIsTold c r)
    (hop : op.endsInFrame) (hperform : r.perform op = .ok r') :
    r'.output.soundOn = (!c.mute && decide (0 < r'.machine.timers.sound)) := by
  have hafter : SoundIsTold c (r.performAll [op]) := h.performAll [op]
  have hr' : r.performAll [op] = r' := by
    show (Halt.settle (r.perform op)).1 = r'
    rw [hperform]
    rfl
  rw [hr'] at hafter
  obtain ⟨s, rfl⟩ := exists_updateOutput_eq hop hperform
  have hwants : s.updateOutput.soundOn = s.updateOutput.wantsSound := by
    rw [soundOn_updateOutput, wantsSound, wantsSound, config_updateOutput, machine_updateOutput]
    rfl
  have hruns : ∀ t : UInt8, (t != 0) = decide (0 < t) := fun t => by
    rw [Bool.eq_iff_iff, bne_iff_ne, decide_eq_true_iff, UInt8.pos_iff_ne_zero]
  rw [hafter.soundOn, hwants, wantsSound, hafter.config, hruns]

end SoundIsTold

variable {ω : Type} [KeySource κ] [OutputDevice ω]

/-- Whatever is done to a runner, its output device is told to start and to stop the beep in turns,
and nothing if muted. After a frame or a single step that succeeds, the beep is on iff the sound
timer runs, unless muted. A terminal rings its bell once whenever the beep changes from off to on,
and never if muted. -/
theorem sounds_alternate (machine : Machine) (keys : κ) (output : ω) (config : Config)
    (threshold : Option Severity) (ops : List RunnerOperation) :
    let r := (new machine keys History.empty config threshold).performAll ops
    let sounds := r.output.sounds
    ((new machine keys output config threshold).performAll ops).output = r.output.replay output ∧
    sounds = alternating true sounds.length ∧
    (∀ op r', op.endsInFrame → r.perform op = .ok r' →
      r'.output.soundOn = (!config.mute && decide (0 < r'.machine.timers.sound))) ∧
    (config.mute = true → sounds = []) ∧
    ((new machine keys (Terminal.Canvas.blank config.mute) config threshold).performAll
        ops).output.bells
      = if config.mute then 0 else startsOf false sounds := by
  intro r sounds
  have hstart : SoundIsTold config (new machine keys History.empty config threshold) :=
    ⟨rfl, rfl, rfl, fun _ => rfl⟩
  have htold : SoundIsTold config r := hstart.performAll ops
  refine ⟨output_eq_replay .., htold.alternates, fun op r' => htold.soundOn_of_perform, htold.muted,
    ?_⟩
  have hbells : (r.output.replay (Terminal.Canvas.blank config.mute)).bells
      = 0 + sounds.countP (· && !config.mute) :=
    Terminal.Canvas.bells_receiveAll _ _
  rw [output_eq_replay, hbells, Nat.zero_add]
  cases hmute : config.mute with
  | true =>
    have hnone : sounds = [] := htold.muted hmute
    rw [hnone]
    rfl
  | false =>
    have hstarts : startsOf false sounds = sounds.count true := by
      rw [show sounds = _ from htold.alternates]
      exact startsOf_alternating true _
    rw [hstarts, List.count]
    refine List.countP_congr fun on _ => ?_
    rw [Bool.not_false, Bool.and_true, beq_true]

/-- A sound timer of two is heard in one frame and not in the next, and rings the bell once. -/
theorem sounds_alternate_of_timer :
    let ops : List RunnerOperation := [.load [0x60, 2, 0xF0, 0x18, 0x12, 4], .frame]
    let r := (new (Machine.initial (.ofSeed 0)) NoKeys.mk History.empty {} none).performAll ops
    r.output.sounds = [true] ∧
      (∃ r', r.perform .frame = .ok r' ∧ r'.output.soundOn = false) ∧
      ((new (Machine.initial (.ofSeed 0)) NoKeys.mk (Terminal.Canvas.blank false) {}
        none).performAll ops).output.bells = 1 := by
  intro ops r
  obtain ⟨-, -, hframe, -, hbells⟩ :=
    sounds_alternate (Machine.initial (.ofSeed 0)) NoKeys.mk NoOutput.mk {} none ops
  have hsettled : r.output.sounds = [true] ∧ (Halt.settle (r.perform .frame)).2.isNone = true ∧
      (Halt.settle (r.perform .frame)).1.machine.timers.sound = 0 := by
    unfold r ops
    decide +kernel
  obtain ⟨hsounds, hok, htimer⟩ := hsettled
  obtain ⟨r', hr'⟩ := Halt.exists_of_settle_isNone hok
  refine ⟨hsounds, ⟨r', hr', ?_⟩, ?_⟩
  · rw [hr'] at htimer
    have htimer : r'.machine.timers.sound = 0 := htimer
    rw [hframe .frame r' rfl hr', htimer]
    rfl
  · have hloud : ¬({} : Config).mute = true := Bool.false_ne_true
    rw [if_neg hloud, hsounds] at hbells
    exact hbells

end Runner

end Chip8
