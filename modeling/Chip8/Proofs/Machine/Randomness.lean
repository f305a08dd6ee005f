import Chip8.Proofs.Machine.Atomicity
import Chip8.Proofs.Machine.Effects

/-!
# The random stream

Only one instruction takes random bytes, one byte each time it is executed. So through a history the
bytes of the stream are taken one after the other by the executions of that instruction
(`Leads.random`), with nothing in between that takes one or gives one back. In particular a mask
of zero, which hides the byte, does not save it, and a reset does not make the stream start again.
-/

namespace Chip8

namespace RandomSource

theorem advance_iterate (s : RandomSource) (n : ℕ) : advance^[n] s = ⟨s.key, s.position + n⟩ := by
  induction n with
  | zero => rfl
  | succ n ih =>
    rw [Function.iterate_succ_apply', ih]
    rfl

theorem byte_advance_iterate (seed : UInt64) (k : ℕ) :
    (advance^[k] (ofSeed seed)).byte = (StreamKey.ofSeed seed).byteAt k := by
  rw [advance_iterate, byte]
  exact congrArg _ (Nat.zero_add k)

end RandomSource

/-- Whether a random byte is taken by an execution. -/
def Execution.tookByte (e : Execution) : Bool :=
  e.instruction.takesByte

namespace Execution

/-- The random source after an execution. -/
theorem random_after (e : Execution) :
    e.after.random = if e.tookByte then e.before.random.advance else e.before.random :=
  (Machine.confined_of_execute e.executed).random

theorem exists_of_tookByte {e : Execution} (h : e.tookByte) :
    ∃ x n, e.instruction = .random x n ∧ e.after.v.get x = e.before.random.byte &&& n := by
  obtain ⟨m, i, m', hexecute⟩ := e
  cases i with
  | random x n =>
    cases hexecute
    refine ⟨x, n, rfl, ?_⟩
    exact (Registers.get_set ..).trans (if_pos rfl)
  | _ => cases h

end Execution

/-- Executions that hand on the random source take its bytes one after the other. -/
theorem Leads.random {a b : RandomSource} {es : List Execution} (h : Leads Machine.random a es b) :
    (∀ k (hk : k < (es.filter Execution.tookByte).length),
      (es.filter Execution.tookByte)[k].before.random = RandomSource.advance^[k] a) ∧
    b = RandomSource.advance^[(es.filter Execution.tookByte).length] a := by
  induction h with
  | nil a => exact ⟨nofun, rfl⟩
  | cons e h ih =>
    -- the others find the source advanced by one if the first took a byte, and else as it was
    obtain ⟨hbefore, hb⟩ := ih
    rw [e.random_after] at hbefore hb
    by_cases htook : e.tookByte
    · rw [if_pos htook] at hbefore hb
      rw [List.filter_cons_of_pos htook]
      refine ⟨fun k hk => ?_, hb⟩
      cases k with
      | zero => rfl
      | succ k => exact hbefore k (Nat.lt_of_succ_lt_succ hk)
    · rw [if_neg htook] at hbefore hb
      rw [List.filter_cons_of_neg htook]
      exact ⟨hbefore, hb⟩

namespace Machine

variable {op : Operation}

/-- Nothing but executing instructions touches the random source, and a reset keeps it. -/
theorem random_perform_of_not_executes (hop : op.executes = false) (m : Machine) :
    (m.perform op).machine.random = m.random := by
  cases op with
  | step | cycle | execute i | executeAll is => cases hop
  | load program =>
    obtain ⟨memory, hmachine⟩ := exists_machine_ofLoad m [.loaded program.length] program
    rw [perform, hmachine]
  | loadFile path contents =>
    obtain ⟨memory, hmachine⟩ := exists_machine_loadFile m path contents
    rw [perform, hmachine]
  | _ => rfl

theorem leads_random_perform (m : Machine) (op : Operation) :
    Leads random m.random (m.executions op) (m.perform op).machine.random :=
  leads_perform random (fun _ => rfl) m fun hop => random_perform_of_not_executes hop m

theorem leads_random_performAll (m : Machine) (ops : List Operation) :
    Leads random m.random (m.executionsAll ops) (m.performAll ops).random :=
  leads_performAll random (fun _ => rfl) m fun _ _ hop m => random_perform_of_not_executes hop m

/-- An operation that executes nothing that takes a byte leaves the random source alone. -/
theorem random_perform (m : Machine) (op : Operation)
    (h : ∀ e ∈ m.executions op, e.tookByte = false) :
    (m.perform op).machine.random = m.random := by
  have hnone : (m.executions op).filter Execution.tookByte = [] :=
    List.filter_eq_nil_iff.2 fun e he => Bool.eq_false_iff.1 (h e he)
  have hrun := (leads_random_perform m op).random.2
  rw [hnone] at hrun
  exact hrun

/-- Through every history of a machine that was made with a seed, the bytes of the seed's stream are
taken one after the other, one by each execution of the instruction that masks a random byte by `n`
and puts it into `vx`. Nothing else takes a byte and nothing gives one back: neither an operation
that executes no such instruction, nor an attempt that fails, nor a reset. -/
theorem kth_random_takes_kth_byte (seed : UInt64) (ops : List Operation) :
    let key := StreamKey.ofSeed seed
    let now := (ofSeed seed).performAll ops
    let taken := ((ofSeed seed).executionsAll ops).filter Execution.tookByte
    (∀ k (hk : k < taken.length), ∃ x n, taken[k].instruction = .random x n ∧
      taken[k].after.v.get x = key.byteAt k &&& n) ∧
    now.random = ⟨key, taken.length⟩ ∧
    (∀ op, (∀ e ∈ now.executions op, e.tookByte = false) →
      (now.perform op).machine.random = now.random) ∧
    (∀ op, op = .step ∨ op = .cycle ∨ (∃ i, op = .execute i) → (now.perform op).error? ≠ none →
      (now.perform op).machine.random = now.random) ∧
    (now.perform .reset).machine.random = now.random := by
  intro key now taken
  obtain ⟨htaken, hnow⟩ := (leads_random_performAll (ofSeed seed) ops).random
  refine ⟨fun k hk => ?_, ?_, fun op hop => random_perform now op hop, ?_, rfl⟩
  · obtain ⟨x, n, hinstruction, hvalue⟩ :=
      Execution.exists_of_tookByte (List.mem_filter.1 (List.getElem_mem hk)).2
    refine ⟨x, n, hinstruction, ?_⟩
    rw [hvalue, htaken k hk]
    exact congrArg (· &&& n) (RandomSource.byte_advance_iterate seed k)
  · refine hnow.trans ((RandomSource.advance_iterate _ _).trans ?_)
    exact congrArg (RandomSource.mk key) (Nat.zero_add _)
  · rintro op (rfl | rfl | ⟨i, rfl⟩) herror
    · exact congrArg random (machine_ofAttempt_of_error herror)
    · exact congrArg random (machine_ofAttempt_of_error herror)
    · exact congrArg random (machine_ofAttempt_of_error herror)

/-- A byte is taken under a mask of zero, none by a return that fails and a reset, and the second
one by the first of three instructions of which the next one is stopped. -/
theorem kth_random_takes_kth_byte_of_masked :
    let key := StreamKey.ofSeed 7
    let ops : List Operation := [.execute (.random 0 0), .execute .ret, .reset,
      .executeAll [.random 1 0x0F, .ret, .random 2 0xFF]]
    let now := (ofSeed 7).performAll ops
    let taken := ((ofSeed 7).executionsAll ops).filter Execution.tookByte
    (∃ h : 1 < taken.length, taken[1].after.v.get 1 = key.byteAt 1 &&& 0x0F) ∧
      now.random = ⟨key, 2⟩ ∧ (now.perform (.execute .ret)).machine.random = now.random := by
  intro key ops now taken
  have hlength : taken.length = 2 := by decide +kernel
  have hsecond : 1 < taken.length := by
    rw [hlength]
    decide
  have hinstruction : taken[1].instruction = .random 1 0x0F := by rfl
  obtain ⟨hvalue, hrandom, -, hstopped, -⟩ := kth_random_takes_kth_byte 7 ops
  refine ⟨⟨hsecond, ?_⟩, ?_, hstopped (.execute .ret) (.inr (.inr ⟨.ret, rfl⟩)) (by decide +kernel)⟩
  · obtain ⟨x, n, htaken, hbyte⟩ := hvalue 1 hsecond
    obtain ⟨rfl, rfl⟩ := Instruction.random.inj (hinstruction.symm.trans htaken)
    exact hbyte
  · rw [← hlength]
    exact hrandom

end Machine

end Chip8
