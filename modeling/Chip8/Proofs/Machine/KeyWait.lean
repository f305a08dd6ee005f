import Chip8.Machine.Operation
import Chip8.Proofs.Machine.Footprint
import Mathlib.Logic.Function.Iterate

/-!
# Waiting for a key

A machine waits for a key by executing the same instruction, of the form `FX0A`, again and again
until some key is down. The flag that says that it waits and the instruction that it waits at are
linked by no more than an invariant: while the flag is set, the opcode at the program counter has
that form (`Machine.WaitsInPlace`). Stepping and cycling keep it, since a waiting machine executes
nothing but that instruction, which moves the program counter only when it clears the flag. So do
the other operations, apart from those that write to memory, which must keep off a waiting machine
(`waitsInPlace_performAll`).

What a waiting machine does is then what that one instruction does: nothing as long as no key is
down (`performAll_of_waiting`), and else it stores the lowest key and goes on
(`perform_of_waiting`).
-/

namespace Chip8

namespace Operation

/-- Whether an operation executes the instruction at the program counter. -/
def executesNext : Operation → Bool
  | step | cycle => true
  | _ => false

/-- Whether an operation is a step. -/
def isStep : Operation → Bool
  | step => true
  | _ => false

end Operation

namespace Machine

/-- Whether an operation leaves a machine to itself but for its keys, its timers and what was shown
of it. Programs may be loaded while it does not wait for a key. -/
def permits (m : Machine) : Operation → Bool
  | .step | .cycle | .tick | .press _ | .release _ | .releaseAll | .markDrawn | .reset => true
  | .load _ | .loadFile .. => !m.waitingForKey
  | _ => false

/-- Whether each of the operations performed one after the other is permitted when its turn comes.
-/
def permitsAll (m : Machine) : List Operation → Bool
  | [] => true
  | op :: rest => m.permits op && (m.perform op).machine.permitsAll rest

/-- The machine that an operation executes the next instruction on. -/
def tickedFor (m : Machine) : Operation → Machine
  | .step => m.tick
  | _ => m

/-- If the machine waits for a key, it does so at an instruction that waits for one. -/
def WaitsInPlace (m : Machine) : Prop :=
  m.waitingForKey = true → m.opcode.Fits (Instruction.waitForKey 0).form

variable {m m' : Machine} {op : Operation}

/-! ### The instruction at the program counter -/

theorem tickedFor_eq (m : Machine) (op : Operation) :
    m.tickedFor op = { m with timers := (m.tickedFor op).timers } := by
  cases op with
  | _ => rfl

theorem perform_of_decode? {i : Instruction} (hop : op.executesNext)
    (hi : Instruction.decode? m.opcode = some i) :
    m.perform op = .ofAttempt m m.trace ((m.tickedFor op).execute i) := by
  cases op with
  | step | cycle =>
    simp only [perform, step, cycle, fetch, hi]
    rfl
  | _ => cases hop

theorem perform_of_not_decode? (hop : op.executesNext)
    (hi : Instruction.decode? m.opcode = none) :
    m.perform op
      = .ofAttempt m m.trace (.error (.unknownOpcode m.opcode.toWord m.pc)) := by
  cases op with
  | step | cycle => simp only [perform, step, cycle, fetch, hi]
  | _ => cases hop

/-- An operation that is to execute the next instruction does so, or leaves the machine as it was.
-/
theorem execute_eq_of_executesNext (hop : op.executesNext) :
    (m.perform op).machine = m ∨ ∃ i, Instruction.decode? m.opcode = some i ∧
      (m.tickedFor op).execute i = .ok (m.perform op).machine := by
  cases hi : Instruction.decode? m.opcode with
  | none =>
    left
    rw [perform_of_not_decode? hop hi]
    rfl
  | some i =>
    rw [perform_of_decode? hop hi]
    cases hexec : (m.tickedFor op).execute i with
    | ok m' => exact .inr ⟨i, rfl, hexec⟩
    | error f => exact .inl rfl

theorem perform_of_fits_waitForKey (hop : op.executesNext)
    (h : m.opcode.Fits (Instruction.waitForKey 0).form) :
    m.perform op = ⟨(m.tickedFor op).awaitKey m.opcode.x, m.trace, none⟩ := by
  rw [perform_of_decode? hop (Instruction.decode?_of_fits_waitForKey h)]
  rfl

theorem error?_of_fits_waitForKey (hop : op.executesNext)
    (h : m.opcode.Fits (Instruction.waitForKey 0).form) : (m.perform op).error? = none := by
  rw [perform_of_fits_waitForKey hop h]

/-! ### One key or none -/

/-- No key being down, waiting sets the flag and changes nothing else. -/
theorem awaitKey_of_none (h : m.keypad.firstPressed? = none) (op : Operation) (x : UInt8) :
    (m.tickedFor op).awaitKey x = { m.tickedFor op with waitingForKey := true } := by
  rw [tickedFor_eq]
  simp only [awaitKey, h]

/-- Some key being down, waiting ends with the lowest one. -/
theorem awaitKey_of_some {key : UInt8} (h : m.keypad.firstPressed? = some key) (op : Operation)
    (x : UInt8) :
    (m.tickedFor op).awaitKey x
      = { m.tickedFor op with v := m.v.set x key, pc := m.pc + 2, waitingForKey := false } := by
  rw [tickedFor_eq]
  simp only [awaitKey, h, put, next]

/-- Only an instruction of the form `FX0A` sets the flag, and only if no key is down. -/
theorem of_waitingForKey_perform (hop : op.executesNext) (hm : m.waitingForKey = false)
    (h : (m.perform op).machine.waitingForKey = true) :
    m.opcode.Fits (Instruction.waitForKey 0).form ∧ m.keypad.firstPressed? = none := by
  rcases execute_eq_of_executesNext (m := m) hop with hsame | ⟨i, hi, hexec⟩
  · rw [hsame, hm] at h
    cases h
  · by_cases hwait : ∃ x, i = .waitForKey x
    · obtain ⟨x, rfl⟩ := hwait
      have hform : m.opcode.Fits (Instruction.waitForKey x).form :=
        Instruction.fits_form_of_decode? hi
      refine ⟨hform, ?_⟩
      cases hfirst : m.keypad.firstPressed? with
      | none => rfl
      | some key =>
        -- with a key down, the instruction clears the flag
        change Except.ok ((m.tickedFor op).awaitKey x) = _ at hexec
        rw [← Except.ok.inj hexec, awaitKey_of_some hfirst] at h
        cases h
    · have hother : ∀ x, i ≠ .waitForKey x := fun x hx => hwait ⟨x, hx⟩
      rw [waitingForKey_of_execute hother hexec, tickedFor_eq] at h
      change m.waitingForKey = true at h
      rw [hm] at h
      cases h

theorem waitingForKey_load (m : Machine) (log : List LogRecord) (program : List UInt8) :
    (Outcome.ofLoad m log (m.load program)).machine.waitingForKey = m.waitingForKey := by
  obtain ⟨memory, hmachine⟩ := exists_machine_ofLoad m log program
  rw [hmachine]

theorem waitingForKey_loadFile (m : Machine) (path : String)
    (contents : Except ReadError (List UInt8)) :
    (m.perform (.loadFile path contents)).machine.waitingForKey = m.waitingForKey := by
  obtain ⟨memory, hmachine⟩ := exists_machine_loadFile m path contents
  rw [perform, hmachine]

/-- Nothing that is permitted sets the flag but executing the next instruction. -/
theorem executesNext_of_waitingForKey_perform (hop : m.permits op) (hm : m.waitingForKey = false)
    (h : (m.perform op).machine.waitingForKey = true) : op.executesNext := by
  cases op with
  | step | cycle => rfl
  | tick | press key | release key | releaseAll | markDrawn =>
    change m.waitingForKey = true at h
    rw [hm] at h
    cases h
  | reset => cases h
  | load program =>
    rw [perform, waitingForKey_load, hm] at h
    cases h
  | loadFile path contents =>
    rw [waitingForKey_loadFile, hm] at h
    cases h
  | _ => cases hop

/-! ### Waiting in place -/

theorem waitsInPlace_initial (random : RandomSource) : (initial random).WaitsInPlace :=
  nofun

/-- Executing the next instruction keeps a waiting machine where it waits. -/
theorem waitsInPlace_of_executesNext (h : m.WaitsInPlace) (hop : op.executesNext) :
    (m.perform op).machine.WaitsInPlace := by
  intro hwaits
  have hform : m.opcode.Fits (Instruction.waitForKey 0).form := by
    cases hm : m.waitingForKey with
    | true => exact h hm
    | false => exact (of_waitingForKey_perform hop hm hwaits).1
  rw [perform_of_fits_waitForKey hop hform] at hwaits ⊢
  cases hfirst : m.keypad.firstPressed? with
  | none =>
    rw [awaitKey_of_none hfirst, tickedFor_eq]
    exact hform
  | some key =>
    rw [awaitKey_of_some hfirst] at hwaits
    cases hwaits

theorem waitsInPlace_perform (h : m.WaitsInPlace) (hop : m.permits op) :
    (m.perform op).machine.WaitsInPlace := by
  cases op with
  | step => exact waitsInPlace_of_executesNext h rfl
  | cycle => exact waitsInPlace_of_executesNext h rfl
  | tick | press key | release key | releaseAll | markDrawn => exact h
  | reset => exact waitsInPlace_initial _
  | load program =>
    intro hwaits
    rw [perform, waitingForKey_load] at hwaits
    rw [permits, hwaits] at hop
    cases hop
  | loadFile path contents =>
    intro hwaits
    rw [waitingForKey_loadFile] at hwaits
    rw [permits, hwaits] at hop
    cases hop
  | _ => cases hop

theorem waitsInPlace_performAll (h : m.WaitsInPlace) {ops : List Operation}
    (hops : m.permitsAll ops) : (m.performAll ops).WaitsInPlace := by
  induction ops generalizing m with
  | nil => exact h
  | cons op rest ih =>
    rw [permitsAll, Bool.and_eq_true] at hops
    exact ih (waitsInPlace_perform h hops.1) hops.2

/-! ### What a waiting machine does -/

/-- As long as no key is down, a waiting machine does nothing but tick its timers. -/
theorem perform_of_waiting (hwaits : m.waitingForKey = true)
    (hform : m.opcode.Fits (Instruction.waitForKey 0).form)
    (hfirst : m.keypad.firstPressed? = none) (hop : op.executesNext) :
    m.perform op = ⟨m.tickedFor op, m.trace, none⟩ := by
  rw [perform_of_fits_waitForKey hop hform, awaitKey_of_none hfirst, tickedFor_eq, ← hwaits]

theorem performAll_of_waiting (hwaits : m.waitingForKey = true)
    (hform : m.opcode.Fits (Instruction.waitForKey 0).form)
    (hfirst : m.keypad.firstPressed? = none) {ops : List Operation}
    (hops : ∀ op ∈ ops, op.executesNext) :
    m.performAll ops = { m with timers := Timers.tick^[ops.countP Operation.isStep] m.timers } := by
  induction ops generalizing m with
  | nil => rfl
  | cons op rest ih =>
    rw [List.forall_mem_cons] at hops
    show (m.perform op).machine.performAll rest = _
    rw [perform_of_waiting hwaits hform hfirst hops.1]
    -- what is left is done to the same machine, but perhaps with ticked timers
    cases op with
    | step =>
      rw [List.countP_cons_of_pos rfl, Function.iterate_succ_apply]
      exact ih hwaits hform hfirst hops.2
    | cycle =>
      rw [List.countP_cons_of_neg Bool.false_ne_true]
      exact ih hwaits hform hfirst hops.2
    | _ => cases hops.1

/-- Through every permitted history of a machine that has just been made, a machine that waits for a
key does so at an opcode of the form `FX0A`. As long as no key is down, cycling does nothing to it
and stepping no more than ticking the timers, and as soon as one is, either of them stores the
lowest key in `vx` and goes on. A machine that does not wait starts to only by executing such an
opcode with no key down. -/
theorem waiting_two_states (random : RandomSource) {ops : List Operation}
    (hops : (initial random).permitsAll ops) :
    let m := (initial random).performAll ops
    (m.waitingForKey = true →
      m.opcode.Fits (Instruction.waitForKey 0).form ∧
        ((∀ key, m.keypad.isPressed key = false) →
          ∀ ops' : List Operation, (∀ op ∈ ops', op.executesNext) →
            m.performAll ops'
                = { m with timers := Timers.tick^[ops'.countP Operation.isStep] m.timers } ∧
              ∀ op, op.executesNext → ((m.performAll ops').perform op).error? = none) ∧
        ((∃ key, m.keypad.isPressed key = true) →
          ∃ key, m.keypad.isPressed key = true ∧ (∀ k < key, m.keypad.isPressed k = false) ∧
            ∀ op, op.executesNext → (m.perform op).error? = none ∧
              (m.perform op).machine = { m.tickedFor op with
                v := m.v.set m.opcode.x key, pc := m.pc + 2, waitingForKey := false })) ∧
      (m.waitingForKey = false → ∀ op, m.permits op → (m.perform op).machine.waitingForKey = true →
        op.executesNext ∧ m.opcode.Fits (Instruction.waitForKey 0).form ∧
          ∀ key, m.keypad.isPressed key = false) := by
  intro m
  have hplace : m.WaitsInPlace := waitsInPlace_performAll (waitsInPlace_initial random) hops
  refine ⟨fun hwaits => ?_, fun hm op hop h => ?_⟩
  · have hform := hplace hwaits
    refine ⟨hform, fun hnone ops' hops' => ?_, fun hdown => ?_⟩
    · have hfirst := Keypad.firstPressed?_eq_none_iff.2 hnone
      have hrun := performAll_of_waiting hwaits hform hfirst hops'
      refine ⟨hrun, fun op hop => ?_⟩
      rw [hrun]
      refine error?_of_fits_waitForKey hop ?_
      exact hform
    · cases hfirst : m.keypad.firstPressed? with
      | none =>
        obtain ⟨key, hkey⟩ := hdown
        rw [Keypad.firstPressed?_eq_none_iff.1 hfirst key] at hkey
        cases hkey
      | some key =>
        obtain ⟨hkey, hlower⟩ := Keypad.of_firstPressed?_eq_some hfirst
        refine ⟨key, hkey, hlower, fun op hop => ?_⟩
        refine ⟨error?_of_fits_waitForKey hop hform, ?_⟩
        rw [perform_of_fits_waitForKey hop hform, awaitKey_of_some hfirst]
  · have hnext := executesNext_of_waitingForKey_perform hop hm h
    obtain ⟨hform, hfirst⟩ := of_waitingForKey_perform hnext hm h
    exact ⟨hnext, hform, Keypad.firstPressed?_eq_none_iff.1 hfirst⟩

/-- A program that waits for a key, first with none down and then with two. -/
theorem waiting_two_states_pressed :
    let m := (initial (.ofSeed 0)).performAll
      [.load [0xF3, 0x0A], .step, .cycle, .press 0xD, .press 0x7]
    m.waitingForKey = true ∧ m.opcode.Fits (Instruction.waitForKey 0).form ∧
      ∃ key, m.keypad.isPressed key = true ∧ (∀ k < key, m.keypad.isPressed k = false) ∧
        (m.perform .cycle).machine
          = { m with v := m.v.set m.opcode.x key, pc := m.pc + 2, waitingForKey := false } := by
  intro m
  have hops : (initial (.ofSeed 0)).permitsAll
      [.load [0xF3, 0x0A], .step, .cycle, .press 0xD, .press 0x7] = true := by
    decide +kernel
  have hstart : m.waitingForKey = true ∧ m.keypad.isPressed 0x7 = true := by
    unfold m
    decide +kernel
  obtain ⟨hwaits, hdown⟩ := hstart
  obtain ⟨hform, -, hpressed⟩ := (waiting_two_states (.ofSeed 0) hops).1 hwaits
  obtain ⟨key, hkey, hlower, hgoes⟩ := hpressed ⟨0x7, hdown⟩
  exact ⟨hwaits, hform, key, hkey, hlower, (hgoes .cycle rfl).2⟩

end Machine

end Chip8
