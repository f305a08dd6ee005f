import Chip8.Proofs.CallStack
import Chip8.Proofs.Machine.Lockstep

/-!
# What execution does not look at

The sound timer, whether the display has been touched and whether an instruction waits for a key are
there for those who watch the machine, and a stack slot from the depth on is stale. None of these
has an influence on what is executed: machines that differ in nothing else (`Machine.AgreesInside`)
stay such machines and return the same errors (`lockstep_agreesInside`), unless the depth is set
from outside, which makes calls out of stale slots.

Which slots are stale changes as a run goes on. A call writes the slot that it brings to life, and
a return only ends the life of one, so the open calls always agree (`push?_of_agree`,
`pop?_of_agree`).
-/

namespace Chip8

/-! ### Stacks with the same open calls -/

namespace CallStack

variable {s s' : CallStack}

theorem push?_of_agree (hdepth : s.depth = s'.depth) (hopen : s.openCalls = s'.openCalls)
    (a : UInt16) :
    Option.Rel (fun t t' => t.depth = t'.depth ∧ t.openCalls = t'.openCalls)
      (s.push? a) (s'.push? a) := by
  cases hs : s.push? a with
  | none =>
    rw [push?_eq_none_iff, hdepth] at hs
    rw [push?_eq_none_iff.2 hs]
    exact .none
  | some t =>
    obtain ⟨hd, ht⟩ := push?_eq_some_iff.1 hs
    have hs' : s'.push? a = some _ := push?_eq_some_iff.2 ⟨hdepth ▸ hd, rfl⟩
    rw [hs']
    refine .some ⟨?_, ?_⟩
    · rw [ht]
      exact congrArg (· + 1) hdepth
    · rw [openCalls_of_push? hs, openCalls_of_push? hs', hopen]

theorem pop?_of_agree (hdepth : s.depth = s'.depth) (hopen : s.openCalls = s'.openCalls) :
    Option.Rel (fun p p' => p.1 = p'.1 ∧ p.2.depth = p'.2.depth ∧ p.2.openCalls = p'.2.openCalls)
      s.pop? s'.pop? := by
  cases hs : s.pop? with
  | none =>
    rw [pop?_eq_none_iff, hdepth] at hs
    rw [pop?_eq_none_iff.2 hs]
    exact .none
  | some p =>
    obtain ⟨a, t⟩ := p
    cases hs' : s'.pop? with
    | none =>
      rw [pop?_eq_none_iff, ← hdepth, ← pop?_eq_none_iff, hs] at hs'
      cases hs'
    | some p' =>
      obtain ⟨a', t'⟩ := p'
      -- the address that is returned to is the last one of the open calls
      rw [openCalls_of_pop? hs, openCalls_of_pop? hs'] at hopen
      obtain ⟨hopen, hlast⟩ := List.append_inj' hopen rfl
      refine .some ⟨List.head_eq_of_cons_eq hlast, ?_, hopen⟩
      obtain ⟨-, -, rfl⟩ := pop?_eq_some_iff.1 hs
      obtain ⟨-, -, rfl⟩ := pop?_eq_some_iff.1 hs'
      show s.depth - 1 = s'.depth - 1
      rw [hdepth]

end CallStack

namespace Machine

/-! ### Machines that differ where execution does not look -/

/-- Two machines that agree in what execution looks at: they may differ in the sound timer, in
whether the display has been touched, in whether a key is waited for, and in the slots of the stack
from the depth on. -/
structure AgreesInside (m m' : Machine) : Prop where
  memory : m.memory = m'.memory
  v : m.v = m'.v
  i : m.i = m'.i
  pc : m.pc = m'.pc
  depth : m.calls.depth = m'.calls.depth
  openCalls : m.calls.openCalls = m'.calls.openCalls
  delay : m.timers.delay = m'.timers.delay
  display : m.display = m'.display
  keypad : m.keypad = m'.keypad
  random : m.random = m'.random

variable {m m' : Machine}

theorem AgreesInside.exists_eq (h : m.AgreesInside m') :
    ∃ calls sound needDraw waitingForKey,
      m' = { m with calls, timers := ⟨m.timers.delay, sound⟩, needDraw, waitingForKey } ∧
        m.calls.depth = calls.depth ∧ m.calls.openCalls = calls.openCalls := by
  obtain ⟨memory, v, i, pc, calls, ⟨delay, sound⟩, display, keypad, needDraw, waitingForKey,
    random⟩ := m'
  obtain ⟨rfl, rfl, rfl, rfl, hdepth, hopen, rfl, rfl, rfl, rfl⟩ := h
  exact ⟨calls, sound, needDraw, waitingForKey, rfl, hdepth, hopen⟩

/-- An instruction does the same inside both machines, or is stopped by the same fault. -/
theorem agreesInside_execute (h : m.AgreesInside m') (i : Instruction) :
    AttemptsAlike Eq AgreesInside (m.execute i) (m'.execute i) := by
  obtain ⟨calls', sound, needDraw, waitingForKey, rfl, hdepth, hopen⟩ := h.exists_eq
  cases i with
  | ret =>
    have hpop := CallStack.pop?_of_agree hdepth hopen
    simp only [execute]
    generalize m.calls.pop? = x at hpop ⊢
    generalize calls'.pop? = x' at hpop ⊢
    cases hpop with
    | none => exact .error rfl
    | some hp =>
      obtain ⟨hsite, hdepth', hopen'⟩ := hp
      exact .ok { h with pc := congrArg (· + 2) hsite, depth := hdepth', openCalls := hopen' }
  | call a =>
    have hpush := CallStack.push?_of_agree hdepth hopen m.pc
    simp only [execute]
    generalize m.calls.push? m.pc = x at hpush ⊢
    generalize calls'.push? m.pc = x' at hpush ⊢
    cases hpush with
    | none => exact .error rfl
    | some hp => exact .ok { h with pc := rfl, depth := hp.1, openCalls := hp.2 }
  | draw x y n =>
    simp only [execute]
    split
    · exact .ok { h with pc := rfl, v := rfl, display := rfl }
    · exact .error rfl
  | waitForKey x =>
    simp only [execute, awaitKey]
    cases m.keypad.firstPressed? with
    | some key => exact .ok { h with pc := rfl, v := rfl }
    | none => exact .ok { h with }
  | _ => exact .ok ⟨rfl, rfl, rfl, rfl, hdepth, hopen, rfl, rfl, rfl, rfl⟩

/-- Machines that agree inside stay so and return the same errors, unless the depth of the stack is
set from outside. -/
theorem lockstep_agreesInside : Lockstep (fun op => ∀ n, op ≠ .setDepth n) Eq AgreesInside where
  memory h := h.memory
  opcode h := by rw [opcode, opcode, h.memory, h.pc]
  unknownOpcode h w := by rw [h.pc]
  execute h i := agreesInside_execute h i
  tick h := { h with delay := congrArg Timers.countDown h.delay }
  setMemory h _ := { h with memory := rfl }
  quiet := by
    intro m m' h op hop hquiet
    obtain ⟨calls', sound, needDraw, waitingForKey, rfl, hdepth, hopen⟩ := h.exists_eq
    cases op with
    | step | cycle | execute i | executeAll is | load program | loadFile path contents =>
      cases hquiet
    | reset => exact ⟨rfl, rfl, rfl, rfl, rfl, rfl, rfl, rfl, rfl, rfl⟩
    | setDepth n => exact absurd rfl (hop n)
    | _ => exact ⟨rfl, rfl, rfl, rfl, hdepth, hopen, rfl, rfl, rfl, rfl⟩

/-- What execution does not look at has no influence on it: through every history in which the
stack depth is not set from outside, machines that agree inside stay so, and return the same errors
at every point of it. -/
theorem performAll_ignores_observers (h : m.AgreesInside m') {ops : List Operation}
    (hops : ∀ op ∈ ops, ∀ n, op ≠ .setDepth n) :
    (m.performAll ops).AgreesInside (m'.performAll ops) ∧
      ∀ op, (∀ n, op ≠ .setDepth n) →
        ((m.performAll ops).perform op).error? = ((m'.performAll ops).perform op).error? := by
  have hrun := lockstep_agreesInside.performAll h hops
  refine ⟨hrun, fun op hop => ?_⟩
  have herror := (lockstep_agreesInside.perform hrun hop).error?
  generalize ((m.performAll ops).perform op).error? = e at herror
  generalize ((m'.performAll ops).perform op).error? = e' at herror
  cases herror with
  | none => rfl
  | some he => rw [Error.alike_eq_iff.1 he]

/-- A call brings a stale slot to life, a return ends its life, and a second one is stopped. -/
theorem performAll_ignores_observers_stale :
    let m := initial (.ofSeed 0)
    let m' := { m with
      calls := ⟨Vector.replicate 16 0x345, 0⟩, timers := ⟨0, 9⟩, needDraw := true,
      waitingForKey := true }
    let ops : List Operation := [.execute (.call 0x300), .tick, .execute .ret]
    m.AgreesInside m' ∧ (m.performAll ops).pc = 0x202 ∧ (m'.performAll ops).pc = 0x202 ∧
      ((m'.performAll ops).perform (.execute .ret)).error?
        = ((m.performAll ops).perform (.execute .ret)).error? := by
  intro m m' ops
  have h : m.AgreesInside m' := ⟨rfl, rfl, rfl, rfl, rfl, rfl, rfl, rfl, rfl, rfl⟩
  have hops : ∀ op ∈ ops, ∀ n, op ≠ .setDepth n := by
    unfold ops
    simp
  obtain ⟨hrun, herror⟩ := performAll_ignores_observers h hops
  have hpc : (m.performAll ops).pc = 0x202 := by
    unfold ops m
    decide
  exact ⟨h, hpc, hrun.pc ▸ hpc, (herror (.execute .ret) nofun).symm⟩

end Machine

end Chip8
