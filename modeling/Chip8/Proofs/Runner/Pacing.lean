import Chip8.Proofs.Allowance
import Chip8.Proofs.Machine.Footprint
import Chip8.Proofs.Runner.Plan

/-!
# How frames share out the instructions

A `PlainLoop` is a machine that is run without a budget and without an output device: each of its
frames reads the keys, executes a number of instructions given beforehand and ticks the timers if
they tick once per frame. A runner does the same (`mirrors_frame`) with the numbers that its budget
gives it: a frame counts its instructions before the first of them, and no loop that executes one
while a whole one is owed does anything else (`executesWhileOwed_iff`).

At `q` instructions per frame, `due q j` of them are due in the frame that follows `j` others: the
whole instructions of `j + 1` frames less those of `j`. If `q` is a multiple of `2⁻²⁰` the budget
carries over exactly the fraction that this leaves (`budget_of_run`), and so any number of frames is
that of the plain loop with these numbers (`mirrors_run`).
-/

namespace Chip8

/-! ### The plain loop -/

/-- A machine and the device that its keys are read from, with what has been reported. -/
structure PlainLoop (κ : Type) where
  /-- The machine. -/
  machine : Machine
  /-- The device that keys are read from. -/
  keys : κ
  /-- What has been reported. -/
  journal : Journal

namespace PlainLoop

variable {κ : Type}

/-- Reads the keys. -/
def poll [KeySource κ] (l : PlainLoop κ) : PlainLoop κ :=
  let (keypad, keys) := KeySource.poll l.keys l.machine.keypad
  { l with machine := { l.machine with keypad }, keys }

/-- What an attempt at the instruction at the program counter makes of the machine. -/
def attempt (c : Config) (m : Machine) : Except Fault Machine :=
  match c.timerMode with
  | .coupled => m.step
  | .decoupled => m.cycle

/-- What an attempt at the instruction at the program counter reports. -/
def reports (c : Config) (m : Machine) : List LogRecord :=
  (if c.debug then [.state m.snapshot] else []) ++ m.trace

/-- Executes the instruction at the program counter. -/
def executeOne (c : Config) (l : PlainLoop κ) : Except (Fault × PlainLoop κ) (PlainLoop κ) :=
  let noted := { l with journal := l.journal.noteAll (reports c l.machine) }
  match attempt c l.machine with
  | .ok machine => .ok { noted with machine }
  | .error f => .error (f, noted)

/-- Executes `n` instructions one after the other, stopping at the first fault. -/
def executeMany (c : Config) (l : PlainLoop κ) : ℕ → Except (Fault × PlainLoop κ) (PlainLoop κ)
  | 0 => .ok l
  | n + 1 => (executeOne c l).bind fun l => executeMany c l n

/-- Ticks the timers, if they tick once per frame. -/
def tickFrame (c : Config) (l : PlainLoop κ) : PlainLoop κ :=
  match c.timerMode with
  | .coupled => l
  | .decoupled => { l with machine := l.machine.tick }

/-- Runs a frame of `n` instructions. -/
def frame [KeySource κ] (c : Config) (l : PlainLoop κ) (n : ℕ) :
    Except (Fault × PlainLoop κ) (PlainLoop κ) :=
  (executeMany c l.poll n).map (tickFrame c)

/-- Runs frames of the given numbers of instructions, stopping at the first fault. -/
def run [KeySource κ] (c : Config) (l : PlainLoop κ) :
    List ℕ → Except (Fault × PlainLoop κ) (PlainLoop κ)
  | [] => .ok l
  | n :: rest => (frame c l n).bind fun l => run c l rest

end PlainLoop

/-! ### Instructions due -/

/-- The instructions of one frame, as a rational number. -/
def Config.pace (c : Config) : ℚ :=
  c.clockSpeed.toNat / (max c.tickRate.toNat 1 : ℕ)

/-- The instructions due in a frame that follows `j` others, at `q` instructions per frame. -/
def due (q : ℚ) (j : ℕ) : ℕ :=
  ⌊(j + 1 : ℕ) * q⌋₊ - ⌊j * q⌋₊

/-- Whole instructions in terms of `k` parts per frame, `d` of which make an instruction. -/
theorem due_div (k d j : ℕ) : due (k / d) j = (j + 1) * k / d - j * k / d := by
  have hfloor : ∀ i : ℕ, ⌊(i : ℚ) * (k / d)⌋₊ = i * k / d := by
    intro i
    rw [← mul_div_assoc, ← Nat.cast_mul, Nat.floor_div_eq_div]
  rw [due, hfloor, hfloor]

/-- The fraction left by `j` frames and the parts of the next one hold what is due in it. -/
theorem mod_add_div (k j : ℕ) {d : ℕ} (hd : 0 < d) :
    (j * k % d + k) / d = (j + 1) * k / d - j * k / d := by
  -- the whole instructions of `j` frames come off on both sides
  have hsplit : (j + 1) * k = d * (j * k / d) + (j * k % d + k) := by
    rw [← Nat.add_assoc, Nat.div_add_mod, Nat.succ_mul]
  rw [hsplit, Nat.mul_add_div hd, Nat.add_sub_cancel_left]

namespace Runner

variable {κ ω : Type} {c : Config} {r r' : Runner κ ω} {l : PlainLoop κ}

/-! ### A runner beside a plain loop -/

/-- A runner with settings `c` that is not paused, and a plain loop that agree but for whether the
display has been touched. -/
structure Tracks (c : Config) (r : Runner κ ω) (l : PlainLoop κ) : Prop where
  config : r.config = c
  paused : r.paused = false
  machine : r.machine.markDrawn = l.machine.markDrawn
  keys : r.keys = l.keys
  journal : r.journal = l.journal

/-- A runner and a plain loop agree on whether they were stopped, by which fault, and on what they
are then. -/
inductive Mirrors (c : Config) :
    Except (Halt κ ω) (Runner κ ω) → Except (Fault × PlainLoop κ) (PlainLoop κ) → Prop
  | ok {r : Runner κ ω} {l : PlainLoop κ} (h : Tracks c r l) : Mirrors c (.ok r) (.ok l)
  | error {halt : Halt κ ω} {f : Fault} {l : PlainLoop κ} (he : halt.error = .fault f)
    (h : Tracks c halt.runner l) : Mirrors c (.error halt) (.error (f, l))

/-- Reports what there is to report of the instruction at the program counter. -/
def noteAttempt (r : Runner κ ω) : Runner κ ω :=
  { r with journal := r.journal.noteAll (PlainLoop.reports r.config r.machine) }

theorem attempt_noteState (r : Runner κ ω) (result : Except Fault Machine) :
    r.noteState.attempt result
      = match result with
        | .ok machine => .ok { r.noteAttempt with machine }
        | .error f => .error ⟨.fault f, r.noteAttempt⟩ := by
  rw [noteState, noteAttempt, PlainLoop.reports]
  cases r.config.debug with
  | false =>
    cases result with
    | ok machine => rfl
    | error f => rfl
  | true =>
    cases result with
    | ok machine => rfl
    | error f => rfl

theorem executeOne_eq (r : Runner κ ω) :
    r.executeOne
      = match PlainLoop.attempt r.config r.machine with
        | .ok machine => .ok { r.noteAttempt with machine }
        | .error f => .error ⟨.fault f, r.noteAttempt⟩ := by
  rw [executeOne, PlainLoop.attempt]
  cases r.config.timerMode with
  | coupled => exact attempt_noteState r r.machine.step
  | decoupled => exact attempt_noteState r r.machine.cycle

theorem attempt_congr_of_markDrawn {m m' : Machine} (h : m.markDrawn = m'.markDrawn) :
    (PlainLoop.attempt c m).map Machine.markDrawn
      = (PlainLoop.attempt c m').map Machine.markDrawn := by
  rw [PlainLoop.attempt, PlainLoop.attempt]
  cases c.timerMode with
  | coupled => exact Machine.step_congr_of_markDrawn h
  | decoupled => exact Machine.cycle_congr_of_markDrawn h

theorem reports_eq_of_markDrawn {m m' : Machine} (h : m.markDrawn = m'.markDrawn) :
    PlainLoop.reports c m = PlainLoop.reports c m' :=
  Machine.eq_of_markDrawn_eq (fun _ => rfl) h

theorem Tracks.noteAttempt (h : Tracks c r l) :
    Tracks c r.noteAttempt
      { l with journal := l.journal.noteAll (PlainLoop.reports c l.machine) } where
  config := h.config
  paused := h.paused
  machine := h.machine
  keys := h.keys
  journal := by
    rw [Runner.noteAttempt, h.config, h.journal, reports_eq_of_markDrawn h.machine]

theorem mirrors_executeOne (h : Tracks c r l) : Mirrors c r.executeOne (l.executeOne c) := by
  -- both report the same, and only then learn whether the instruction is stopped
  have hnoted := h.noteAttempt
  have hattempt := attempt_congr_of_markDrawn (c := c) h.machine
  rw [executeOne_eq, PlainLoop.executeOne, h.config]
  cases hr : PlainLoop.attempt c r.machine with
  | ok m =>
    cases hl : PlainLoop.attempt c l.machine with
    | ok m' =>
      rw [hr, hl] at hattempt
      have hm : m.markDrawn = m'.markDrawn := Except.ok.inj hattempt
      exact .ok ⟨hnoted.config, hnoted.paused, hm, hnoted.keys, hnoted.journal⟩
    | error f =>
      rw [hr, hl] at hattempt
      cases hattempt
  | error f =>
    cases hl : PlainLoop.attempt c l.machine with
    | ok m' =>
      rw [hr, hl] at hattempt
      cases hattempt
    | error f' =>
      rw [hr, hl] at hattempt
      obtain rfl : f = f' := Except.error.inj hattempt
      exact .error rfl hnoted

/-- What agrees goes on to agree if it is followed by what keeps agreement. -/
theorem Mirrors.bind {x : Except (Halt κ ω) (Runner κ ω)}
    {y : Except (Fault × PlainLoop κ) (PlainLoop κ)} (h : Mirrors c x y)
    {f : Runner κ ω → Except (Halt κ ω) (Runner κ ω)}
    {g : PlainLoop κ → Except (Fault × PlainLoop κ) (PlainLoop κ)}
    (hfg : ∀ r l, x = .ok r → Tracks c r l → Mirrors c (f r) (g l)) :
    Mirrors c (x.bind f) (y.bind g) := by
  cases h with
  | ok h => exact hfg _ _ rfl h
  | error he h => exact .error he h

/-- Executing as many instructions as a plain loop keeps beside it. -/
theorem mirrors_executeMany (h : Tracks c r l) (n : ℕ) :
    Mirrors c (r.executeMany n) (l.executeMany c n) := by
  induction n generalizing r l with
  | zero => exact .ok h
  | succ n ih =>
    have hpaid : Tracks c { r with budget := r.budget.spend } l :=
      ⟨h.config, h.paused, h.machine, h.keys, h.journal⟩
    rw [executeMany_succ, PlainLoop.executeMany]
    exact (mirrors_executeOne hpaid).bind fun r' l' _ h' => ih h'

/-! ### Frames -/

section

variable [KeySource κ]

theorem Tracks.pollKeys (h : Tracks c r l) : Tracks c r.pollKeys l.poll := by
  have hkeypad : r.machine.keypad = l.machine.keypad :=
    Machine.eq_of_markDrawn_eq (fun _ => rfl) h.machine
  have hpoll : KeySource.poll r.keys r.machine.keypad = KeySource.poll l.keys l.machine.keypad := by
    rw [h.keys, hkeypad]
  refine ⟨h.config, h.paused, ?_, congrArg Prod.snd hpoll, h.journal⟩
  exact congrArg₂ (fun m keypad => { m with keypad }) h.machine (congrArg Prod.fst hpoll)

end

theorem Tracks.owe (h : Tracks c r l) : Tracks c r.owe l where
  config := by rw [Runner.owe]; exact h.config
  paused := by rw [Runner.owe]; exact h.paused
  machine := by rw [machine_owe]; exact h.machine
  keys := by rw [Runner.owe]; exact h.keys
  journal := by rw [Runner.owe]; exact h.journal

theorem Tracks.tickFrame (h : Tracks c r l) : Tracks c r.tickFrame (l.tickFrame c) := by
  obtain rfl := h.config
  rw [Runner.tickFrame, PlainLoop.tickFrame]
  cases r.config.timerMode with
  | coupled => exact h
  | decoupled =>
    exact ⟨rfl, h.paused, congrArg Machine.tick h.machine, h.keys, h.journal⟩

theorem Tracks.updateOutput [OutputDevice ω] (h : Tracks c r l) : Tracks c r.updateOutput l := by
  have hsound : Tracks c r.updateSound l := by
    rw [updateSound]
    split
    · exact h
    · exact ⟨h.config, h.paused, h.machine, h.keys, h.journal⟩
  rw [Runner.updateOutput, updateScreen]
  split
  · exact ⟨hsound.config, hsound.paused, hsound.machine, hsound.keys, hsound.journal⟩
  · exact hsound

theorem mirrors_play (h : Tracks c r l) :
    Mirrors c r.play ((l.executeMany c r.owe.budget.whole).map (PlainLoop.tickFrame c)) := by
  have hmany := mirrors_executeMany h.owe r.owe.budget.whole
  rw [play]
  -- the numbers of instructions are rounded quotients, which must not be unfolded to compare them
  generalize r.owe.executeMany r.owe.budget.whole = x at hmany ⊢
  generalize l.executeMany c r.owe.budget.whole = y at hmany ⊢
  cases hmany with
  | ok h => exact .ok h.tickFrame
  | error he h => exact .error he h

/-! ### The budget from frame to frame -/

theorem budget_of_executeOne (h : r.executeOne = .ok r') : r'.budget = r.budget := by
  have hplan := plan_executeOne r
  rw [h] at hplan
  exact congrArg Plan.budget hplan

/-- The equation of a loop that pays for an instruction and executes it while a whole one is owed,
and that a fault stops. -/
def ExecutesWhileOwed (loop : Runner κ ω → Except (Halt κ ω) (Runner κ ω)) : Prop :=
  ∀ r, loop r =
    if Allowance.one.units ≤ r.budget.units then
      { r with budget := r.budget.spend }.executeOne.bind loop
    else .ok r

theorem executesWhileOwed_executeMany :
    ExecutesWhileOwed fun r : Runner κ ω => r.executeMany r.budget.whole := by
  intro r
  dsimp only
  split
  · next h =>
    rw [Allowance.whole_of_le h, executeMany_succ]
    refine bind_congr_of_ok fun r' hone => ?_
    rw [budget_of_executeOne hone]
  · next h =>
    rw [Allowance.whole_of_lt (Nat.lt_of_not_le h), executeMany]

/-- The loop is no other than counting the instructions first. -/
theorem executesWhileOwed_iff {loop : Runner κ ω → Except (Halt κ ω) (Runner κ ω)} :
    ExecutesWhileOwed loop ↔ ∀ r, loop r = r.executeMany r.budget.whole := by
  constructor
  · intro hloop r
    -- by induction on the instructions owed, of which each turn of the loop takes one
    generalize hn : r.budget.whole = n
    induction n generalizing r with
    | zero =>
      have hnone : ¬Allowance.one.units ≤ r.budget.units := by
        rw [← Allowance.whole_pos_iff, hn]
        exact Nat.lt_irrefl 0
      rw [hloop, if_neg hnone, executeMany]
    | succ n ih =>
      have howed : Allowance.one.units ≤ r.budget.units := by
        rw [← Allowance.whole_pos_iff, hn]
        exact Nat.succ_pos n
      rw [hloop, if_pos howed, executeMany_succ]
      refine bind_congr_of_ok fun r' hone => ih r' ?_
      have hleft : r.budget.spend.whole = n := by
        rw [Allowance.whole_spend, hn, Nat.add_sub_cancel]
      rw [budget_of_executeOne hone]
      exact hleft
  · intro h
    obtain rfl : loop = fun r => r.executeMany r.budget.whole := funext h
    exact executesWhileOwed_executeMany

section

variable [KeySource κ] [OutputDevice ω]

/-- A frame is that of a plain loop with as many instructions as are owed. -/
theorem mirrors_frame (h : Tracks c r l) :
    Mirrors c r.frame (l.frame c r.owe.budget.whole) := by
  have hplay := mirrors_play h.pollKeys
  rw [budget_owe_pollKeys] at hplay
  rw [frame_of_not_paused h.paused, PlainLoop.frame]
  generalize r.pollKeys.play = x at hplay ⊢
  generalize (l.poll.executeMany c r.owe.budget.whole).map (PlainLoop.tickFrame c) = y at hplay ⊢
  cases hplay with
  | ok h => exact .ok h.updateOutput
  | error he h => exact .error he h

/-! ### Exact pacing -/

variable {k : ℕ}

/-- A frame that starts with the parts that `j` frames of `k` parts leave executes what is due in it
and leaves the parts that `j + 1` frames do. -/
theorem pacing_of_frame (hpaused : r.paused = false)
    (hpace : r.config.instructionsPerFrame = .grid k) (hk : k + 2 ^ 20 ≤ 2 ^ significantBits)
    {j : ℕ} (hbudget : r.budget = .grid (j * k % 2 ^ 20)) :
    r.owe.budget.whole = due ((k : ℚ) / (2 ^ 20 : ℕ)) j ∧
      ∀ r', r.frame = .ok r' → r'.budget = .grid ((j + 1) * k % 2 ^ 20) := by
  have hlt : j * k % 2 ^ 20 < 2 ^ 20 := Nat.mod_lt _ (Nat.two_pow_pos 20)
  have howe : r.owe.budget = .grid (j * k % 2 ^ 20 + k) := by
    rw [budget_owe, hbudget, hpace, Allowance.add_grid (by omega)]
  constructor
  · rw [howe, Allowance.whole_grid, mod_add_div k j (Nat.two_pow_pos 20), due_div]
  · intro r' h
    have hleft : r'.budget = Allowance.spend^[r.owe.budget.whole] r.owe.budget :=
      congrArg Plan.budget (plan_of_frame hpaused h)
    rw [hleft, howe, Allowance.spend_iterate_grid, Nat.mod_add_mod, Nat.succ_mul]

/-- After `n` frames the budget is the parts that as many frames leave. -/
theorem budget_of_run (hpaused : r.paused = false)
    (hpace : r.config.instructionsPerFrame = .grid k) (hk : k + 2 ^ 20 ≤ 2 ^ significantBits)
    {j n : ℕ} (hbudget : r.budget = .grid (j * k % 2 ^ 20)) (h : r.run n = .ok r') :
    r'.config = r.config ∧ r'.paused = false ∧ r'.budget = .grid ((j + n) * k % 2 ^ 20) := by
  induction n generalizing r j with
  | zero =>
    cases h
    exact ⟨rfl, hpaused, hbudget⟩
  | succ n ih =>
    rw [run_succ] at h
    obtain ⟨next, hframe, hrun⟩ := exists_of_bind_eq_ok h
    have hnext := (pacing_of_frame hpaused hpace hk hbudget).2 next hframe
    have hplan := plan_of_frame hpaused hframe
    have hconfig : next.config = r.config := congrArg Plan.config hplan
    have hpaused' : next.paused = false := (congrArg Plan.paused hplan).trans hpaused
    rw [← hconfig] at hpace
    obtain ⟨hconfig', hrest⟩ := ih hpaused' hpace hnext hrun
    rw [Nat.add_right_comm, Nat.add_assoc] at hrest
    exact ⟨hconfig'.trans hconfig, hrest⟩

/-- Frames are those of a plain loop with the numbers of instructions due. -/
theorem mirrors_run (h : Tracks c r l) (hpace : c.instructionsPerFrame = .grid k)
    (hk : k + 2 ^ 20 ≤ 2 ^ significantBits) {j : ℕ} (hbudget : r.budget = .grid (j * k % 2 ^ 20))
    (n : ℕ) :
    Mirrors c (r.run n) (l.run c ((List.range' j n).map (due ((k : ℚ) / (2 ^ 20 : ℕ))))) := by
  induction n generalizing r l j with
  | zero => exact .ok h
  | succ n ih =>
    -- the induction is over frames, `j` of which have been run before
    obtain ⟨hdue, hnext⟩ := pacing_of_frame h.paused (h.config ▸ hpace) hk hbudget
    rw [run_succ, List.range'_succ, List.map_cons, PlainLoop.run, ← hdue]
    exact (mirrors_frame h).bind fun r' l' hr h' => ih h' (hnext r' hr)

omit [KeySource κ] [OutputDevice ω] in
/-- At a pace of whole parts per frame nothing is rounded. -/
theorem perFrame_of_pace (h : c.pace * 2 ^ 20 = k) :
    c.instructionsPerFrame = .grid k ∧ k + 2 ^ 20 ≤ 2 ^ significantBits ∧
      c.pace = (k : ℚ) / (2 ^ 20 : ℕ) := by
  have hrate : ((max c.tickRate.toNat 1 : ℕ) : ℚ) ≠ 0 :=
    Nat.cast_ne_zero.2 (Nat.ne_of_gt (Nat.lt_of_lt_of_le Nat.one_pos (Nat.le_max_right ..)))
  have hparts : c.clockSpeed.toNat * 2 ^ 20 = k * max c.tickRate.toNat 1 := by
    rw [Config.pace, div_mul_eq_mul_div, div_eq_iff hrate] at h
    exact_mod_cast h
  refine ⟨Allowance.perFrame_eq_grid hparts, ?_, ?_⟩
  · have := Allowance.parts_lt hparts
    rw [significantBits]
    omega
  · rw [← h]
    push_cast
    exact (mul_div_cancel_right₀ _ (by positivity)).symm

/-- Frames at a pace that is a multiple of `2⁻²⁰`, from nothing owed on: they are those of a plain
loop that executes in each what is due in it, up to the same fault if there is one, and leave the
fraction of an instruction that is left of all of them. Counting the instructions of a frame before
the first of them is what a loop does that executes one while a whole one is owed, and what no other
function does. -/
theorem run_refines_plainLoop (r : Runner κ ω) (n : ℕ)
    (hpace : ∃ k : ℕ, r.config.pace * 2 ^ 20 = k) (hbudget : r.budget = .zero)
    (hpaused : r.paused = false) :
    let q := r.config.pace
    Mirrors r.config (r.run n)
        (PlainLoop.run r.config ⟨r.machine, r.keys, r.journal⟩ ((List.range n).map (due q))) ∧
      (∀ r', r.run n = .ok r' → r'.budget.value = Int.fract (n * q)) ∧
      (∀ j r', r.run j = .ok r' → r'.owe.budget.whole = due q j) ∧
      ∀ loop : Runner κ ω → Except (Halt κ ω) (Runner κ ω),
        ExecutesWhileOwed loop ↔ ∀ s, loop s = s.executeMany s.budget.whole := by
  intro q
  obtain ⟨k, hk⟩ := hpace
  obtain ⟨hgrid, hbound, hq⟩ := perFrame_of_pace hk
  have hstart : r.budget = .grid (0 * k % 2 ^ 20) := by
    rw [hbudget, Allowance.zero_eq_grid, Nat.zero_mul, Nat.zero_mod]
  have hself : Tracks r.config r ⟨r.machine, r.keys, r.journal⟩ := ⟨rfl, hpaused, rfl, rfl, rfl⟩
  refine ⟨?_, ?_, ?_, fun loop => executesWhileOwed_iff⟩
  · rw [List.range_eq_range', show q = _ from hq]
    exact mirrors_run hself hgrid hbound hstart n
  · intro r' h
    obtain ⟨-, -, hleft⟩ := budget_of_run hpaused hgrid hbound hstart h
    rw [hleft, Allowance.value_grid, Nat.zero_add, show q = _ from hq, ← mul_div_assoc,
      ← Nat.cast_mul, Int.fract_div_natCast_eq_div_natCast_mod]
  · intro j r' h
    obtain ⟨hconfig, hpaused', hleft⟩ := budget_of_run hpaused hgrid hbound hstart h
    rw [Nat.zero_add] at hleft
    rw [← hconfig] at hgrid
    rw [(pacing_of_frame hpaused' hgrid hbound hleft).1, show q = _ from hq]

end

/-- At three instructions in two frames, the first frame executes one and the second one two. -/
theorem run_refines_plainLoop_three_halves :
    let r : Runner NoKeys NoOutput :=
      new (Machine.initial (.ofSeed 0)) ⟨⟩ ⟨⟩ { clockSpeed := 90 } none
    Mirrors r.config (r.run 2) (PlainLoop.run r.config ⟨r.machine, r.keys, r.journal⟩ [1, 2]) ∧
      ∀ r', r.run 2 = .ok r' → r'.budget.value = 0 := by
  intro r
  have hpace : r.config.pace = ((3 : ℕ) : ℚ) / (2 : ℕ) := by
    show ((90 : ℕ) : ℚ) / (60 : ℕ) = _
    norm_num
  obtain ⟨hmirrors, hleft, -⟩ :=
    run_refines_plainLoop r 2 ⟨3 * 2 ^ 19, by rw [hpace]; norm_num⟩ rfl rfl
  rw [hpace] at hmirrors hleft
  constructor
  · rwa [List.range_succ, List.range_one, List.map_append, List.map_singleton, List.map_singleton,
      due_div, due_div] at hmirrors
  · intro r' h
    rw [hleft r' h, Nat.cast_ofNat, mul_div_cancel₀ _ two_ne_zero]
    exact Int.fract_natCast 3

end Runner

end Chip8
