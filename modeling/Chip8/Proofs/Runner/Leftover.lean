import Chip8.Proofs.Allowance
import Chip8.Proofs.Runner.Plan

/-!
# Instructions left over

A frame pays for an instruction before it attempts it, and an instruction that is stopped ends the
frame: what has not been paid for yet is still owed then. A frame that is not stopped leaves less
than a whole instruction. So a whole instruction is owed between two operations iff some frame
stopped short of what it had to execute (`StopsShort`) and neither a reset nor another frame has
changed that since (`KeepsAllOwed`); this is `owes_performAll_iff`, by induction on what a single
operation leaves owed (`whole_leftBy_ne_zero_iff`).

If the rate divides the clock into `q`, there are no fractions, and a frame attempts more than `q`
instructions iff some are owed before it and the first `q` are not stopped.
-/

namespace Chip8

/-- The settings are `c`, and the program fits, so that a reset succeeds. -/
structure Plan.Ready (c : Config) (p : Plan) : Prop where
  config : p.config = c
  fits : p.program.length ≤ programLimit

namespace Runner

variable {κ ω : Type} {r r' : Runner κ ω} {c : Config} {op : RunnerOperation}

/-! ### What an operation leaves owed -/

section

variable [KeySource κ]

/-- Whether a frame ends before it has attempted all that is owed. -/
def StopsShort (r : Runner κ ω) : Prop :=
  r.paused = false ∧ r.attempts < r.owe.budget.whole

/-- What an operation leaves owed. -/
def leftBy (r : Runner κ ω) : RunnerOperation → Allowance
  | .frame => if r.paused then r.budget else Allowance.spend^[r.attempts] r.owe.budget
  | .reset => .zero
  | _ => r.budget

theorem leftBy_frame_of_paused (h : r.paused = true) : r.leftBy .frame = r.budget :=
  if_pos h

theorem leftBy_frame_of_not_paused (h : r.paused = false) :
    r.leftBy .frame = Allowance.spend^[r.attempts] r.owe.budget := by
  rw [leftBy, h]
  exact if_neg Bool.false_ne_true

/-- Whether an operation leaves alone what is owed: it is neither a reset nor a frame that executes
something. -/
def KeepsOwed (r : Runner κ ω) (op : RunnerOperation) : Prop :=
  op ≠ .reset ∧ (op = .frame → r.paused = true)

/-- A whole instruction is owed after an operation if it was before and the operation leaves it
alone, or if the operation is a frame that stops short. -/
theorem whole_leftBy_ne_zero_iff :
    (r.leftBy op).whole ≠ 0 ↔
      (r.budget.whole ≠ 0 ∧ r.KeepsOwed op) ∨ (op = .frame ∧ r.StopsShort) := by
  cases op with
  | frame =>
    cases hpaused : r.paused with
    | true =>
      rw [leftBy_frame_of_paused hpaused]
      simp [KeepsOwed, StopsShort, hpaused]
    | false =>
      rw [leftBy_frame_of_not_paused hpaused, Allowance.whole_spend_iterate,
        Nat.sub_ne_zero_iff_lt]
      simp [KeepsOwed, StopsShort, hpaused]
  | reset => simp [leftBy, KeepsOwed, Allowance.whole, Allowance.zero]
  | _ => simp [leftBy, KeepsOwed]

/-! ### Whole instructions per frame -/

theorem dvd_leftBy (hpace : Allowance.one.units ∣ r.config.instructionsPerFrame.units)
    (h : Allowance.one.units ∣ r.budget.units) (op : RunnerOperation) :
    Allowance.one.units ∣ (r.leftBy op).units := by
  cases op with
  | frame =>
    rw [leftBy]
    split
    · exact h
    · rw [budget_owe]
      exact Allowance.dvd_units_spend_iterate (Allowance.dvd_units_add h hpace) _
  | reset => exact Nat.dvd_zero _
  | _ => exact h

/-- At `q` instructions per frame and with no fraction owed, a frame attempts more than `q` iff some
are owed before it and the first `q` are not stopped. -/
theorem lt_attempts_iff {q : ℕ} (hpace : r.config.instructionsPerFrame = .grid (q * 2 ^ 20))
    (hq : q < 2 ^ 32) (hbudget : Allowance.one.units ∣ r.budget.units) :
    q < r.attempts ↔
      r.paused = false ∧ r.budget.whole ≠ 0 ∧ ∃ r', r.pollKeys.owe.executeMany q = .ok r' := by
  have hbound : q + 1 < 2 ^ significantBits := by
    rw [significantBits]
    omega
  have hwhole : (Allowance.grid (q * 2 ^ 20)).whole = q := by
    rw [Allowance.whole_grid, Nat.mul_div_cancel _ (Nat.two_pow_pos 20)]
  have howes : q < r.owe.budget.whole ↔ r.budget.whole ≠ 0 := by
    rw [budget_owe, hpace]
    constructor
    · -- with nothing owed before, just what is due in the frame is
      intro hlt hzero
      have hpart : 0 + q * 2 ^ 20 < 2 ^ significantBits := by
        rw [significantBits]
        omega
      rw [Allowance.eq_zero_of_whole hbudget hzero, Allowance.zero_eq_grid,
        Allowance.add_grid hpart, Nat.zero_add, hwhole] at hlt
      exact Nat.lt_irrefl q hlt
    · intro hne
      refine Allowance.le_whole_add hbound ?_
      rw [hwhole]
      omega
  cases hpaused : r.paused with
  | true => simp [attempts_of_paused hpaused]
  | false =>
    rw [attempts_of_not_paused hpaused, lt_attemptsOf_iff, howes]
    exact (and_iff_right rfl).symm

end

/-! ### Operations -/

theorem ready_load (h : r.plan.Ready c) (program : List UInt8) :
    (Halt.settle (r.load program)).1.plan.Ready c ∧
      (Halt.settle (r.load program)).1.budget = r.budget := by
  rcases Nat.lt_or_ge programLimit program.length with hlt | hle
  · obtain ⟨e, hload⟩ := r.load_of_lt hlt
    rw [hload]
    exact ⟨h, rfl⟩
  · obtain ⟨r', hload, hplan⟩ := r.load_of_le hle
    rw [hload]
    exact ⟨⟨(congrArg Plan.config hplan).trans h.config, (congrArg Plan.program hplan) ▸ hle⟩,
      congrArg Plan.budget hplan⟩

theorem ready_reset (h : r.plan.Ready c) :
    (Halt.settle r.reset).1.plan.Ready c ∧ (Halt.settle r.reset).1.budget = .zero := by
  have hfits : r.program.length ≤ programLimit := h.fits
  obtain ⟨r', hload, hplan⟩ :=
    load_of_le ({ r with machine := r.machine.reset }.note .resetting) hfits
  rw [reset, hload]
  exact ⟨⟨(congrArg Plan.config hplan).trans h.config, (congrArg Plan.program hplan) ▸ hfits⟩, rfl⟩

variable [KeySource κ] [OutputDevice ω]

theorem plan_frame (r : Runner κ ω) :
    (Halt.settle r.frame).1.plan = r.plan.owing (r.leftBy .frame) := by
  cases hpaused : r.paused with
  | true =>
    rw [leftBy_frame_of_paused hpaused]
    exact plan_frame_of_paused hpaused
  | false => rw [plan_frame_of_not_paused hpaused, leftBy_frame_of_not_paused hpaused]

theorem paused_frame (r : Runner κ ω) : (Halt.settle r.frame).1.paused = r.paused :=
  congrArg Plan.paused (plan_frame r)

theorem ready_frame (h : r.plan.Ready c) : (Halt.settle r.frame).1.plan.Ready c := by
  rw [plan_frame]
  exact ⟨h.config, h.fits⟩

/-- An operation leaves owed what `leftBy` says. -/
theorem ready_perform (h : r.plan.Ready c) (hop : op.isRun = false) :
    (Halt.settle (r.perform op)).1.plan.Ready c ∧
      (Halt.settle (r.perform op)).1.budget = r.leftBy op := by
  cases op with
  | load program => exact ready_load h program
  | loadFile path contents =>
    cases contents with
    | ok program => exact ready_load (r := r.note (.executing path)) h program
    | error reason => exact ⟨h, rfl⟩
  | frame => exact ⟨ready_frame h, congrArg Plan.budget (plan_frame r)⟩
  | run frames => cases hop
  | singleStep =>
    have hplan := plan_singleStep r
    exact ⟨hplan ▸ h, congrArg Plan.budget hplan⟩
  | togglePause => exact ⟨⟨h.config, h.fits⟩, rfl⟩
  | reset => exact ready_reset h
  | edit operation =>
    have hplan := plan_edit r operation
    exact ⟨hplan ▸ h, congrArg Plan.budget hplan⟩

/-! ### Histories -/

/-- Whether operations leave alone what is owed. -/
def KeepsAllOwed (r : Runner κ ω) : List RunnerOperation → Prop
  | [] => True
  | op :: rest => r.KeepsOwed op ∧ (Halt.settle (r.perform op)).1.KeepsAllOwed rest

/-- Whether some frame among operations stops short, and those after it leave alone what it owes. -/
def LeavesOwed (r : Runner κ ω) (ops : List RunnerOperation) : Prop :=
  ∃ before after, ops = before ++ .frame :: after ∧ (r.performAll before).StopsShort ∧
    (r.performAll (before ++ [.frame])).KeepsAllOwed after

theorem not_leavesOwed_nil : ¬r.LeavesOwed [] := by
  rintro ⟨before, after, h, -⟩
  cases before with
  | nil => cases h
  | cons op rest => cases h

theorem leavesOwed_cons {rest : List RunnerOperation} :
    r.LeavesOwed (op :: rest) ↔
      (op = .frame ∧ r.StopsShort ∧ (Halt.settle (r.perform op)).1.KeepsAllOwed rest) ∨
        (Halt.settle (r.perform op)).1.LeavesOwed rest := by
  constructor
  · rintro ⟨before, after, h, hshort, hkeeps⟩
    cases before with
    | nil =>
      cases h
      exact .inl ⟨rfl, hshort, hkeeps⟩
    | cons first before =>
      cases h
      exact .inr ⟨before, after, rfl, hshort, hkeeps⟩
  · rintro (⟨rfl, hshort, hkeeps⟩ | ⟨before, after, rfl, hshort, hkeeps⟩)
    · exact ⟨[], rest, rfl, hshort, hkeeps⟩
    · exact ⟨op :: before, after, rfl, hshort, hkeeps⟩

/-- A whole instruction is owed after operations if it was before them and none of them has changed
that, or if one of them leaves it owed. -/
theorem owes_performAll_iff (h : r.plan.Ready c) {ops : List RunnerOperation}
    (hops : ∀ op ∈ ops, op.isRun = false) :
    (r.performAll ops).budget.whole ≠ 0 ↔
      (r.budget.whole ≠ 0 ∧ r.KeepsAllOwed ops) ∨ r.LeavesOwed ops := by
  induction ops generalizing r with
  | nil => simp [performAll, KeepsAllOwed, not_leavesOwed_nil]
  | cons op rest ih =>
    rw [List.forall_mem_cons] at hops
    obtain ⟨hready, hbudget⟩ := ready_perform h hops.1
    have hrest := ih hready hops.2
    rw [hbudget, whole_leftBy_ne_zero_iff] at hrest
    rw [leavesOwed_cons, KeepsAllOwed, ← or_assoc, ← and_assoc, ← and_assoc, ← or_and_right]
    exact hrest

theorem dvd_performAll (h : r.plan.Ready c)
    (hpace : Allowance.one.units ∣ c.instructionsPerFrame.units)
    (hbudget : Allowance.one.units ∣ r.budget.units) {ops : List RunnerOperation}
    (hops : ∀ op ∈ ops, op.isRun = false) :
    (r.performAll ops).plan.Ready c ∧ Allowance.one.units ∣ (r.performAll ops).budget.units := by
  induction ops generalizing r with
  | nil => exact ⟨h, hbudget⟩
  | cons op rest ih =>
    rw [List.forall_mem_cons] at hops
    obtain ⟨hready, hleft⟩ := ready_perform h hops.1
    have hpace' := hpace
    rw [← h.config] at hpace'
    exact ih hready (hleft ▸ dvd_leftBy hpace' hbudget op) hops.2

/-- If the rate divides the clock into `q`, an instruction or more is owed after a history iff some
frame of it stopped short and neither a reset nor another frame has changed what that one left. The
next frame attempts more than `q` instructions iff moreover it is not paused and none of its first
`q` instructions is stopped. -/
theorem leftover_iff_stopped_short (machine : Machine) (keys : κ) (output : ω) (config : Config)
    (threshold : Option Severity) (ops : List RunnerOperation) (hrate : 1 ≤ config.tickRate.toNat)
    (hdvd : config.tickRate.toNat ∣ config.clockSpeed.toNat)
    (hops : ∀ op ∈ ops, op.isRun = false) :
    let start := new machine keys output config threshold
    let r := start.performAll ops
    let q := config.clockSpeed.toNat / config.tickRate.toNat
    (1 ≤ r.budget.value ↔ start.LeavesOwed ops) ∧
      (q < r.attempts ↔ r.paused = false ∧ start.LeavesOwed ops ∧
        ∃ r', r.pollKeys.owe.executeMany q = .ok r') := by
  intro start r q
  have hclock : config.clockSpeed.toNat = q * config.tickRate.toNat :=
    (Nat.div_mul_cancel hdvd).symm
  have hpace : config.instructionsPerFrame = .grid (q * 2 ^ 20) := by
    refine Allowance.perFrame_eq_grid ?_
    rw [Nat.max_eq_left hrate, hclock, Nat.mul_right_comm]
  have hq : q < 2 ^ 32 := Nat.lt_of_le_of_lt (Nat.div_le_self _ _) config.clockSpeed.toNat_lt
  have hready : start.plan.Ready config := ⟨rfl, Nat.zero_le _⟩
  have hwhole : Allowance.one.units ∣ config.instructionsPerFrame.units := by
    rw [hpace, Allowance.units_one, Allowance.grid, Nat.mul_assoc]
    exact Nat.dvd_mul_left _ _
  obtain ⟨hready', hdvd'⟩ := dvd_performAll hready hwhole (Nat.dvd_zero _) hops
  have howes : r.budget.whole ≠ 0 ↔ start.LeavesOwed ops := by
    have hnone : start.budget.whole = 0 := Nat.zero_div _
    rw [owes_performAll_iff hready hops, hnone]
    exact ⟨fun h => h.resolve_left fun h => h.1 rfl, .inr⟩
  constructor
  · rw [← howes, ← not_lt, Allowance.value_lt_one_iff]
  · rw [← howes]
    have hpace' : r.config.instructionsPerFrame = .grid (q * 2 ^ 20) := by
      rw [show r.config = config from hready'.config, hpace]
    exact lt_attempts_iff hpace' hq hdvd'

/-- At two instructions per frame, a return from no call stops a frame at the first of them. The
second one is still owed, and is executed in the next frame as its third. -/
theorem leftover_of_return :
    let start := new (Machine.initial (.ofSeed 0)) NoKeys.mk NoOutput.mk { clockSpeed := 120 } none
    let r := start.performAll [.load [0x00, 0xEE], .frame, .load [0x60, 1, 0x60, 2, 0x60, 3]]
    1 ≤ r.budget.value ∧ 2 < r.attempts ∧
      ∃ r', r.frame = .ok r' ∧ r'.machine.v.get 0 = 3 := by
  intro start r
  obtain ⟨howes, hattempts⟩ := leftover_iff_stopped_short (Machine.initial (.ofSeed 0)) NoKeys.mk
    NoOutput.mk { clockSpeed := 120 } none
    [.load [0x00, 0xEE], .frame, .load [0x60, 1, 0x60, 2, 0x60, 3]]
    (by decide) (by decide) (by decide)
  have hshort : (start.performAll [.load [0x00, 0xEE]]).StopsShort := by
    unfold start StopsShort
    decide +kernel
  have hleaves : start.LeavesOwed [.load [0x00, 0xEE], .frame, .load [0x60, 1, 0x60, 2, 0x60, 3]] :=
    ⟨[.load [0x00, 0xEE]], [.load [0x60, 1, 0x60, 2, 0x60, 3]], rfl, hshort,
      ⟨nofun, nofun⟩, trivial⟩
  have hsettled :
      r.paused = false ∧ (Halt.settle (r.pollKeys.owe.executeMany 2)).2.isNone = true ∧
        (Halt.settle r.frame).2.isNone = true ∧
        (Halt.settle r.frame).1.machine.v.get 0 = 3 := by
    unfold r start
    decide +kernel
  obtain ⟨hpaused, htwo, hframe, hregister⟩ := hsettled
  refine ⟨howes.2 hleaves, hattempts.2 ⟨hpaused, hleaves, ?_⟩, ?_⟩
  · exact Halt.exists_of_settle_isNone htwo
  · obtain ⟨r', h⟩ := Halt.exists_of_settle_isNone hframe
    rw [h] at hregister
    exact ⟨r', h, hregister⟩

end Runner

end Chip8
