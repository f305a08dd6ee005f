import Chip8.Runner.Operation

/-!
# The operations of a runner as sequences

What a runner does is a sequence of steps that ends at the first error. The equations here write
each operation down as such, with `Except.bind` and `Except.map`, so that a property of operations
follows from that property of their steps; `exists_of_bind_eq_ok` and `exists_of_map_eq_ok` take
apart a sequence that has succeeded.
-/

namespace Chip8

variable {ε α β : Type}

/-- A sequence that succeeds has succeeded in its first part. -/
theorem exists_of_bind_eq_ok {x : Except ε α} {f : α → Except ε β} {b : β}
    (h : x.bind f = .ok b) : ∃ a, x = .ok a ∧ f a = .ok b := by
  cases x with
  | ok a => exact ⟨a, rfl, h⟩
  | error e => cases h

theorem exists_of_map_eq_ok {x : Except ε α} {f : α → β} {b : β} (h : x.map f = .ok b) :
    ∃ a, x = .ok a ∧ f a = b := by
  cases x with
  | ok a => exact ⟨a, rfl, Except.ok.inj h⟩
  | error e => cases h

theorem eq_error_of_map_eq_error {x : Except ε α} {f : α → β} {e : ε} (h : x.map f = .error e) :
    x = .error e := by
  cases x with
  | ok a => cases h
  | error e' => exact congrArg _ (Except.error.inj h)

/-- A sequence fails in its first part or in what follows. -/
theorem exists_of_bind_eq_error {x : Except ε α} {f : α → Except ε β} {e : ε}
    (h : x.bind f = .error e) : x = .error e ∨ ∃ a, x = .ok a ∧ f a = .error e := by
  cases x with
  | ok a => exact .inr ⟨a, rfl, h⟩
  | error e' => exact .inl (congrArg _ (Except.error.inj h))

/-- What follows only matters where the first part succeeds. -/
theorem bind_congr_of_ok {x : Except ε α} {f g : α → Except ε β}
    (h : ∀ a, x = .ok a → f a = g a) : x.bind f = x.bind g := by
  cases x with
  | ok a => exact h a rfl
  | error e => rfl

namespace Halt

variable {κ ω : Type} {r : Runner κ ω} {x : Except (Halt κ ω) (Runner κ ω)}

/-- What leaves no error has succeeded. -/
theorem exists_of_settle_isNone (h : (settle x).2.isNone = true) : ∃ r', x = .ok r' := by
  cases x with
  | ok r' => exact ⟨r', rfl⟩
  | error halt => cases h

/-- A transitive relation holds from before to after a sequence if it does for each part of it. -/
theorem settle_bind_of_trans {R : Runner κ ω → Runner κ ω → Prop}
    (htrans : ∀ {a b c}, R a b → R b c → R a c)
    {f : Runner κ ω → Except (Halt κ ω) (Runner κ ω)} (h : R r (settle x).1)
    (hf : ∀ s, x = .ok s → R s (settle (f s)).1) : R r (settle (x.bind f)).1 := by
  cases x with
  | ok s => exact htrans h (hf s rfl)
  | error halt => exact h

theorem settle_map_of_trans {R : Runner κ ω → Runner κ ω → Prop}
    (htrans : ∀ {a b c}, R a b → R b c → R a c) {f : Runner κ ω → Runner κ ω}
    (h : R r (settle x).1) (hf : ∀ s, R s (f s)) : R r (settle (x.map f)).1 := by
  cases x with
  | ok s => exact htrans h (hf s)
  | error halt => exact h

end Halt

namespace Runner

variable {κ ω : Type}

/-! ### Instructions -/

theorem exists_noteState_eq (r : Runner κ ω) : ∃ journal, r.noteState = { r with journal } := by
  rw [noteState]
  split
  · exact ⟨_, rfl⟩
  · exact ⟨r.journal, rfl⟩

theorem machine_noteState (r : Runner κ ω) : r.noteState.machine = r.machine := by
  obtain ⟨journal, h⟩ := exists_noteState_eq r
  rw [h]

theorem executeMany_succ (r : Runner κ ω) (n : Nat) :
    r.executeMany (n + 1)
      = { r with budget := r.budget.spend }.executeOne.bind fun r => r.executeMany n := by
  rw [executeMany]
  cases { r with budget := r.budget.spend }.executeOne with
  | ok r' => rfl
  | error halt => rfl

/-! ### Frames -/

variable [KeySource κ]

theorem budget_owe_pollKeys (r : Runner κ ω) : r.pollKeys.owe.budget = r.owe.budget := by
  rw [budget_owe, budget_owe, pollKeys]

variable [OutputDevice ω] {r : Runner κ ω}

theorem frame_of_paused (h : r.paused = true) : r.frame = .ok r.pollKeys.updateOutput := by
  rw [frame]
  exact if_pos h

theorem frame_of_not_paused (h : r.paused = false) :
    r.frame = r.pollKeys.play.map updateOutput := by
  have hpaused : ¬r.pollKeys.paused = true := by
    show ¬r.paused = true
    rw [h]
    exact Bool.false_ne_true
  rw [frame]
  refine (if_neg hpaused).trans ?_
  cases r.pollKeys.play with
  | ok r' => rfl
  | error halt => rfl

theorem run_succ (r : Runner κ ω) (n : Nat) : r.run (n + 1) = r.frame.bind fun r => r.run n := by
  rw [run]
  cases r.frame with
  | ok r' => rfl
  | error halt => rfl

theorem singleStep_eq (r : Runner κ ω) :
    r.singleStep
      = (r.pollKeys.noteState.attempt r.pollKeys.machine.step).map updateOutput := by
  rw [singleStep]
  cases r.pollKeys.noteState.attempt r.pollKeys.machine.step with
  | ok r' => rfl
  | error halt => rfl

end Runner

end Chip8
