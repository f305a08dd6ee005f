import Chip8.Proofs.Runner.FreshStart
import Chip8.Proofs.Runner.Playing
import Chip8.Terminal.Session

/-!
# Sessions obey their commands

A turn takes the oldest command from the keyboard, obeys it, and then runs a frame. What comes of
this depends on whether the program is paused by then: a pause, its end and a reset count for the
frame of the same turn already (`IsFrameOf`), and a step is passed over unless the program is
paused. `Obeys` says all this of a single turn, and that it executes one instruction or none if the
program is paused at its end (`of_step`, `IsFrameOf.of_paused`).

A reset needs the program to fit, which every turn keeps (`ready_turn`), so all turns of a session
obey their commands (`obeys_of_mem_turnStarts`). The first one that quits or fails is the last one
(`takeTurns_cases`).
-/

namespace Chip8.Terminal

variable {r s : Runner Keyboard Canvas} {c : Config}

/-! ### Taking a command -/

/-- The command that a turn takes from the keyboard. -/
def command? (r : Runner Keyboard Canvas) : Option Command :=
  r.keys.buffer.commands.head?

/-- The runner without the command that a turn takes. -/
def taken (r : Runner Keyboard Canvas) : Runner Keyboard Canvas :=
  { r with
    keys := { r.keys with
      buffer := { r.keys.buffer with commands := r.keys.buffer.commands.tail } } }

theorem nextCommand_eq (r : Runner Keyboard Canvas) : nextCommand r = (command? r, taken r) :=
  rfl

/-- How a turn ends, given what the last thing that it did has come to. -/
def outcome (result : Except (Halt Keyboard Canvas) (Runner Keyboard Canvas)) :
    Runner Keyboard Canvas × Option Ending :=
  ((Halt.settle result).1, (Halt.settle result).2.map .failed)

theorem turn_of_quit (h : command? r = some .quit) : turn r = (taken r, some .quit) := by
  rw [turn, nextCommand_eq, h]

theorem obeyAndRun_eq (r : Runner Keyboard Canvas) (command? : Option Command) :
    obeyAndRun r command? = (obey r command?).bind Runner.frame := by
  rw [obeyAndRun]
  cases obey r command? with
  | ok next => rfl
  | error halt => rfl

theorem turn_of_not_quit (h : command? r ≠ some .quit) :
    turn r = outcome ((obey (taken r) (command? r)).bind Runner.frame) := by
  rw [turn, nextCommand_eq]
  split
  · next hcommand => exact absurd (congrArg Prod.fst hcommand) h
  · next hcommand =>
    cases hcommand
    rw [obeyAndRun_eq]
    cases (obey (taken r) (command? r)).bind Runner.frame with
    | ok next => rfl
    | error halt => rfl

/-- The instructions executed in a turn. -/
def executedInTurn (r : Runner Keyboard Canvas) : List Instruction :=
  if command? r = some .quit then [] else
    (if command? r = some .step ∧ r.paused then (taken r).executed .singleStep else []) ++
      match obey (taken r) (command? r) with
      | .ok next => next.executed .frame
      | .error _ => []

/-- The keypad as a turn reads it. -/
def held (r : Runner Keyboard Canvas) : Keypad :=
  r.keys.buffer.held r.keys.time

/-- A turn of `r` comes to a frame of `s`. -/
structure IsFrameOf (r s : Runner Keyboard Canvas) : Prop where
  turn_eq : turn r = outcome s.frame
  executed_eq : executedInTurn r = s.executed .frame

theorem isFrameOf_of_obey {command : Option Command} (hc : command? r = command)
    (hquit : command ≠ some .quit) (hstep : command = some .step → r.paused = false)
    (h : obey (taken r) command = .ok s) : IsFrameOf r s := by
  subst hc
  have hnot : ¬(command? r = some .step ∧ r.paused) := by
    rintro ⟨hc, hpaused⟩
    rw [hstep hc] at hpaused
    cases hpaused
  constructor
  · rw [turn_of_not_quit hquit, h]
    rfl
  · rw [executedInTurn, if_neg hquit, if_neg hnot, h]
    rfl

/-! ### What a turn does -/

/-- What a turn does about the command that it takes. -/
structure Obeys (r : Runner Keyboard Canvas) : Prop where
  /-- It takes the oldest command from the keyboard, if there is one, and no other. -/
  keys : (turn r).1.keys = (taken r).keys
  /-- It ends the session by the command to quit, and has done nothing then. -/
  quit_iff : (turn r).2 = some .quit ↔ command? r = some .quit
  quit : command? r = some .quit → executedInTurn r = [] ∧ (turn r).1.machine = r.machine
  /-- Without a command it is a frame. -/
  frame : command? r = none → IsFrameOf r (taken r)
  /-- A pause or its end comes before the frame. -/
  togglePause : command? r = some .togglePause → IsFrameOf r (taken r).togglePause
  /-- A reset comes before the frame and ends every pause. -/
  reset : command? r = some .reset →
    ∃ again, (taken r).reset = .ok again ∧ again.paused = false ∧ IsFrameOf r again ∧
      (turn r).1.paused = false
  /-- A step is passed over while not paused. -/
  passed_step : command? r = some .step → r.paused = false → IsFrameOf r (taken r)
  /-- While paused, it comes before the frame, and there is no frame if it fails. -/
  step : command? r = some .step → r.paused = true →
    turn r = outcome ((taken r).singleStep.bind Runner.frame)
  /-- If the program is paused at the end, a step has executed one instruction after ticking the
  timers once, and anything else has executed none and not ticked them. -/
  paused : (turn r).2 = none → (turn r).1.paused = true →
    let read := { r.machine with keypad := held r }
    (command? r = some .step → ∃ i next, read.fetch = .ok i ∧ read.tick.execute i = .ok next ∧
      executedInTurn r = [i] ∧ (turn r).1.machine = next.markDrawn) ∧
    (command? r ≠ some .step → executedInTurn r = [] ∧ (turn r).1.machine = read.markDrawn)
  /-- An error ends the session at the instruction that is stopped. -/
  failed : ∀ e, (turn r).2 = some (.failed e) →
    ∃ f, e = .fault f ∧ (turn r).1.machine.StoppedBy f

theorem paused_of_isFrameOf (h : IsFrameOf r s) : (turn r).1.paused = s.paused := by
  rw [h.turn_eq]
  exact Runner.paused_frame s

/-- A turn that is a paused frame. -/
theorem IsFrameOf.of_paused (h : IsFrameOf r s) (hpaused : (turn r).1.paused = true) :
    executedInTurn r = [] ∧
      (turn r).1.machine = Machine.markDrawn { s.machine with keypad := held s } := by
  rw [paused_of_isFrameOf h] at hpaused
  refine ⟨h.executed_eq.trans (if_pos hpaused), ?_⟩
  rw [h.turn_eq, Runner.frame_of_paused hpaused]
  exact Runner.machine_updateOutput _

/-! ### Obeying a command -/

/-- Obeying a command comes to one operation at most. -/
theorem obey_cases (s : Runner Keyboard Canvas) (command? : Option Command) :
    obey s command? = .ok s ∨ obey s command? = .ok s.togglePause ∨
      obey s command? = s.singleStep ∨ obey s command? = s.reset := by
  cases command? with
  | none => exact .inl rfl
  | some command =>
    cases command with
    | quit => exact .inl rfl
    | togglePause => exact .inr (.inl rfl)
    | step =>
      rw [obey]
      split
      · exact .inr (.inr (.inl rfl))
      · exact .inl rfl
    | reset => exact .inr (.inr (.inr rfl))

theorem keys_obey (h : s.plan.Ready c) (command? : Option Command) :
    (Halt.settle (obey s command?)).1.keys = s.keys := by
  rcases obey_cases s command? with hobey | hobey | hobey | hobey
  · rw [hobey]
    rfl
  · rw [hobey]
    rfl
  · rw [hobey]
    exact (Runner.sameKeys_singleStep s).keys
  · obtain ⟨again, hreset, -, hkeys⟩ := Runner.exists_reset h
    rw [hobey, hreset]
    exact hkeys

theorem ready_obey (h : s.plan.Ready c) (command? : Option Command) :
    (Halt.settle (obey s command?)).1.plan.Ready c := by
  rcases obey_cases s command? with hobey | hobey | hobey | hobey
  · rw [hobey]
    exact h
  · rw [hobey]
    exact Runner.ready_performAll h [.togglePause]
  · rw [hobey]
    exact Runner.ready_performAll h [.singleStep]
  · rw [hobey]
    exact Runner.ready_performAll h [.reset]

theorem stoppedBy_of_obey (h : s.plan.Ready c) {command? : Option Command}
    {halt : Halt Keyboard Canvas} (herror : obey s command? = .error halt) :
    ∃ f, halt.error = .fault f ∧ halt.runner.machine.StoppedBy f := by
  rcases obey_cases s command? with hobey | hobey | hobey | hobey
  · cases hobey.symm.trans herror
  · cases hobey.symm.trans herror
  · exact Runner.stoppedBy_of_singleStep (hobey.symm.trans herror)
  · obtain ⟨again, hreset, -⟩ := Runner.exists_reset h
    cases hreset.symm.trans (hobey.symm.trans herror)

/-! ### Every turn obeys its command -/

/-- What obeying the command keeps, and every frame, is kept by the turn. -/
theorem turn_of_trans {R : Runner Keyboard Canvas → Runner Keyboard Canvas → Prop}
    (hrefl : ∀ s, R s s) (htrans : ∀ {a b c}, R a b → R b c → R a c)
    (hobey : R (taken r) (Halt.settle (obey (taken r) (command? r))).1)
    (hframe : ∀ s : Runner Keyboard Canvas, R s (Halt.settle s.frame).1) :
    R (taken r) (turn r).1 := by
  by_cases hquit : command? r = some .quit
  · rw [turn_of_quit hquit]
    exact hrefl _
  · rw [turn_of_not_quit hquit]
    exact Halt.settle_bind_of_trans (R := R) htrans hobey fun s _ => hframe s

theorem ready_turn (h : r.plan.Ready c) : (turn r).1.plan.Ready c := by
  have htaken : (taken r).plan.Ready c := h
  exact turn_of_trans (R := fun s t => s.plan.Ready c → t.plan.Ready c) (fun _ hs => hs)
    (fun hst htu hs => htu (hst hs)) (fun hs => ready_obey hs _) (fun _ hs => Runner.ready_frame hs)
    htaken

theorem keys_turn (h : r.plan.Ready c) : (turn r).1.keys = (taken r).keys := by
  have htaken : (taken r).plan.Ready c := h
  exact turn_of_trans (R := fun s t => t.keys = s.keys) (fun _ => rfl)
    (fun hst htu => htu.trans hst) (keys_obey htaken _) fun s => (Runner.sameKeys_frame s).keys

theorem ending_turn_eq_quit_iff : (turn r).2 = some .quit ↔ command? r = some .quit := by
  constructor
  · intro hending
    by_contra hquit
    rw [turn_of_not_quit hquit, outcome, Option.map_eq_some_iff] at hending
    obtain ⟨e, -, he⟩ := hending
    cases he
  · intro hquit
    rw [turn_of_quit hquit]

theorem stoppedBy_of_turn (h : r.plan.Ready c) {e : Error}
    (hending : (turn r).2 = some (.failed e)) :
    ∃ f, e = .fault f ∧ (turn r).1.machine.StoppedBy f := by
  have hquit : command? r ≠ some .quit := by
    intro hquit
    rw [ending_turn_eq_quit_iff.2 hquit] at hending
    cases hending
  have htaken : (taken r).plan.Ready c := h
  rw [turn_of_not_quit hquit] at hending ⊢
  cases hx : (obey (taken r) (command? r)).bind Runner.frame with
  | ok next =>
    rw [hx] at hending
    cases hending
  | error halt =>
    rw [hx] at hending
    cases hending
    rcases exists_of_bind_eq_error hx with hobey | ⟨next, -, hframe⟩
    · exact stoppedBy_of_obey htaken hobey
    · exact Runner.stoppedBy_of_frame hframe

theorem isFrameOf_of_none (hc : command? r = none) : IsFrameOf r (taken r) :=
  isFrameOf_of_obey hc nofun nofun rfl

theorem isFrameOf_of_togglePause (hc : command? r = some .togglePause) :
    IsFrameOf r (taken r).togglePause :=
  isFrameOf_of_obey hc nofun nofun rfl

theorem exists_isFrameOf_of_reset (h : r.plan.Ready c) (hc : command? r = some .reset) :
    ∃ again, (taken r).reset = .ok again ∧ again.paused = false ∧ IsFrameOf r again ∧
      (turn r).1.paused = false := by
  have htaken : (taken r).plan.Ready c := h
  obtain ⟨again, hreset, hpaused, -⟩ := Runner.exists_reset htaken
  have hframe : IsFrameOf r again := isFrameOf_of_obey hc nofun nofun hreset
  exact ⟨again, hreset, hpaused, hframe, (paused_of_isFrameOf hframe).trans hpaused⟩

theorem isFrameOf_of_passed_step (hc : command? r = some .step) (hpaused : r.paused = false) :
    IsFrameOf r (taken r) := by
  have htaken : (taken r).paused = false := hpaused
  refine isFrameOf_of_obey hc nofun (fun _ => hpaused) ?_
  rw [obey, htaken]
  rfl

theorem turn_of_step (hc : command? r = some .step) (hpaused : r.paused = true) :
    turn r = outcome ((taken r).singleStep.bind Runner.frame) := by
  have htaken : (taken r).paused = true := hpaused
  have hquit : command? r ≠ some .quit := by
    rw [hc]
    nofun
  rw [turn_of_not_quit hquit, hc, obey, if_pos htaken]

/-- A step while paused executes one instruction, and the frame after it none. -/
theorem of_step (hc : command? r = some .step) (hpaused : r.paused = true)
    (hending : (turn r).2 = none) :
    let read := { r.machine with keypad := held r }
    ∃ i next, read.fetch = .ok i ∧ read.tick.execute i = .ok next ∧ executedInTurn r = [i] ∧
      (turn r).1.machine = next.markDrawn := by
  intro read
  rw [turn_of_step hc hpaused] at hending ⊢
  cases hx : (taken r).singleStep with
  | error halt =>
    rw [hx] at hending
    cases hending
  | ok stepped =>
    obtain ⟨i, next, hfetch, hexecute, hexecuted, hmachine⟩ := Runner.exists_of_singleStep hx
    have hpaused' : stepped.paused = true := by
      have hplan := Runner.plan_singleStep (taken r)
      rw [hx] at hplan
      exact (congrArg Plan.paused hplan).trans hpaused
    have hkeys : (taken r).pollKeys.SameKeys stepped := by
      have hsame := Runner.sameKeys_singleStep (taken r)
      rwa [hx] at hsame
    -- the frame reads the keys again, and finds them as the step has read them
    have hheld : held stepped = stepped.machine.keypad := by
      rw [held, hkeys.keys, hkeys.keypad]
      rfl
    have hpoll : stepped.pollKeys.machine = stepped.machine := by
      show { stepped.machine with keypad := held stepped } = stepped.machine
      rw [hheld]
    refine ⟨i, next, hfetch, hexecute, ?_, ?_⟩
    · have htaken : (taken r).paused = true := hpaused
      have hobey : obey (taken r) (some .step) = .ok stepped := by
        rw [obey, if_pos htaken, hx]
      have hnone : stepped.executed .frame = [] := if_pos hpaused'
      rw [executedInTurn, hc, if_neg nofun, if_pos ⟨rfl, hpaused⟩, hobey, hexecuted]
      show [i] ++ stepped.executed .frame = [i]
      rw [hnone]
      rfl
    · show (Halt.settle stepped.frame).1.machine = next.markDrawn
      rw [Runner.frame_of_paused hpaused']
      show stepped.pollKeys.updateOutput.machine = next.markDrawn
      rw [Runner.machine_updateOutput, hpoll, hmachine]
      rfl

/-- Anything else executes none if the program is paused at the end. -/
theorem of_not_step (h : r.plan.Ready c) (hc : command? r ≠ some .step)
    (hending : (turn r).2 = none) (hpaused : (turn r).1.paused = true) :
    executedInTurn r = [] ∧
      (turn r).1.machine = Machine.markDrawn { r.machine with keypad := held r } := by
  cases hcommand : command? r with
  | none => exact (isFrameOf_of_none hcommand).of_paused hpaused
  | some command =>
    cases command with
    | quit =>
      rw [ending_turn_eq_quit_iff.2 hcommand] at hending
      cases hending
    | togglePause => exact (isFrameOf_of_togglePause hcommand).of_paused hpaused
    | step => exact absurd hcommand hc
    | reset =>
      obtain ⟨-, -, -, -, hfinal⟩ := exists_isFrameOf_of_reset h hcommand
      rw [hfinal] at hpaused
      cases hpaused

/-- Every turn obeys its command, as long as the program fits. -/
theorem obeys_of_ready (h : r.plan.Ready c) : Obeys r where
  keys := keys_turn h
  quit_iff := ending_turn_eq_quit_iff
  quit hc := by
    rw [turn_of_quit hc]
    exact ⟨if_pos hc, rfl⟩
  frame := isFrameOf_of_none
  togglePause := isFrameOf_of_togglePause
  reset := exists_isFrameOf_of_reset h
  passed_step := isFrameOf_of_passed_step
  step := turn_of_step
  paused hending hpaused := by
    refine ⟨fun hc => of_step hc ?_ hending, fun hc => of_not_step h hc hending hpaused⟩
    -- a step that is passed over leaves the program as it is
    by_contra hidle
    have hpassed := isFrameOf_of_passed_step hc (Bool.eq_false_iff.2 hidle)
    exact hidle ((paused_of_isFrameOf hpassed).symm.trans hpaused)
  failed _ := stoppedBy_of_turn h

/-! ### Sessions -/

namespace Session

/-- The runners that the turns of `takeTurns` start with. -/
def turnStarts (typed : ℕ → List String) (s : Session) (n : ℕ) : ℕ → List (Runner Keyboard Canvas)
  | 0 => []
  | limit + 1 =>
    let s := (typed n).foldl type (s.wait n)
    s.runner :: match turn s.runner with
      | (_, some _) => []
      | (r, none) => turnStarts typed { s with runner := r } (n + 1) limit

variable {typed : ℕ → List String} {n limit : ℕ}

theorem plan_foldl_type (s : Session) (texts : List String) :
    (texts.foldl type s).runner.plan = s.runner.plan := by
  induction texts generalizing s with
  | nil => rfl
  | cons text rest ih => exact ih (s.type text)

theorem obeys_of_mem_turnStarts {s : Session} (h : s.runner.plan.Ready c) :
    ∀ r ∈ s.turnStarts typed n limit, Obeys r := by
  induction limit generalizing s n with
  | zero => exact List.forall_mem_nil _
  | succ limit ih =>
    have hready : ((typed n).foldl type (s.wait n)).runner.plan.Ready c := by
      rw [plan_foldl_type]
      exact h
    have hnext := ready_turn hready
    rw [turnStarts, List.forall_mem_cons]
    refine ⟨obeys_of_ready hready, ?_⟩
    cases hturn : turn ((typed n).foldl type (s.wait n)).runner with
    | mk next ending? =>
      rw [hturn] at hnext
      cases ending? with
      | some ending => exact List.forall_mem_nil _
      | none => exact ih hnext

/-- A session goes on until a turn ends it, or the turns are up. -/
theorem takeTurns_cases (typed : ℕ → List String) (s : Session) (n limit : ℕ) :
    let starts := s.turnStarts typed n limit
    let last := takeTurns typed s n limit
    (last.2 = none ∧ starts.length = limit ∧ ∀ r ∈ starts, (turn r).2 = none) ∨
      ∃ before r, starts = before ++ [r] ∧ (∀ r ∈ before, (turn r).2 = none) ∧ turn r = last ∧
        last.2 ≠ none := by
  induction limit generalizing s n with
  | zero => exact .inl ⟨rfl, rfl, List.forall_mem_nil _⟩
  | succ limit ih =>
    rw [turnStarts, takeTurns]
    cases hturn : turn ((typed n).foldl type (s.wait n)).runner with
    | mk next ending? =>
      cases ending? with
      | some ending => exact .inr ⟨[], _, rfl, List.forall_mem_nil _, hturn, nofun⟩
      | none =>
        have hfirst : (turn ((typed n).foldl type (s.wait n)).runner).2 = none := by
          rw [hturn]
        -- the turns left are those of a session that starts with what this one leaves
        rcases ih { (typed n).foldl type (s.wait n) with runner := next } (n + 1) with
          ⟨hlast, hlength, hrest⟩ | ⟨before, r, hstarts, hbefore, hr, hlast⟩
        · refine .inl ⟨hlast, congrArg (· + 1) hlength, ?_⟩
          rw [List.forall_mem_cons]
          exact ⟨hfirst, hrest⟩
        · refine .inr ⟨_ :: before, r, congrArg (_ :: ·) hstarts, ?_, hr, hlast⟩
          rw [List.forall_mem_cons]
          exact ⟨hfirst, hbefore⟩

/-- Whatever has been done to a runner before, and whatever is typed, every turn of a session obeys
the command that it takes. The first turn that quits or fails is the last one, and the session ends
with its outcome; otherwise all turns are taken. -/
theorem session_obeys_commands (machine : Machine) (keys : Keyboard) (output : Canvas)
    (config : Config) (threshold : Option Severity) (ops : List RunnerOperation)
    (reader : KeyReader) (typed : ℕ → List String) (n limit : ℕ) :
    let s : Session := ⟨(Runner.new machine keys output config threshold).performAll ops, reader⟩
    let starts := s.turnStarts typed n limit
    let last := takeTurns typed s n limit
    (∀ r ∈ starts, Obeys r) ∧
      ((last.2 = none ∧ starts.length = limit ∧ ∀ r ∈ starts, (turn r).2 = none) ∨
        ∃ before r, starts = before ++ [r] ∧ (∀ r ∈ before, (turn r).2 = none) ∧ turn r = last ∧
          last.2 ≠ none) := by
  intro s starts last
  have hstart : (Runner.new machine keys output config threshold).plan.Ready config :=
    ⟨rfl, Nat.zero_le _⟩
  have hready : s.runner.plan.Ready config := Runner.ready_performAll hstart ops
  exact ⟨obeys_of_mem_turnStarts hready, takeTurns_cases typed s n limit⟩

/-- A pause, two steps, and then quitting with a step still in the queue: each step executes one
instruction, and the delay timer is not ticked after the second. -/
theorem session_obeys_commands_of_steps :
    let keys : Keyboard :=
      ⟨{ KeyBuffer.empty holdTimeout with
        commands := [.togglePause, .step, .step, .quit, .step] }, 0⟩
    let s : Session :=
      ⟨(Runner.new (Machine.initial (.ofSeed 0)) keys (.blank false) {} none).performAll
        [.load [0x60, 5, 0xF0, 0x15]], .idle⟩
    let starts := s.turnStarts (fun _ => []) 0 9
    let last := takeTurns (fun _ => []) s 0 9
    starts.map executedInTurn = [[], [.set 0 5], [.setDelay 0], []] ∧
      last.2 = some .quit ∧ last.1.machine.timers = ⟨5, 0⟩ ∧
      ∃ before r, starts = before ++ [r] ∧ turn r = last ∧ Obeys r := by
  intro keys s starts last
  have hrun : starts.map executedInTurn = [[], [.set 0 5], [.setDelay 0], []] ∧
      last.2 = some .quit ∧ last.1.machine.timers = ⟨5, 0⟩ := by
    unfold starts last s keys
    decide +kernel
  obtain ⟨hexecuted, hquit, htimers⟩ := hrun
  obtain ⟨hobeys, hends⟩ := session_obeys_commands (Machine.initial (.ofSeed 0)) keys
    (.blank false) {} none [.load [0x60, 5, 0xF0, 0x15]] .idle (fun _ => []) 0 9
  rcases hends with ⟨hnone, -⟩ | ⟨before, r, hstarts, -, hr, -⟩
  · have hnone : last.2 = none := hnone
    rw [hquit] at hnone
    cases hnone
  · have hmem : r ∈ before ++ [r] := List.mem_append_right _ (List.mem_singleton_self r)
    exact ⟨hexecuted, hquit, htimers, before, r, hstarts, hr, hobeys r (hstarts ▸ hmem)⟩

end Session

end Chip8.Terminal
