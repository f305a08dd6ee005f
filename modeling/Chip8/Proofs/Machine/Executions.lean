import Chip8.Proofs.Machine.KeyWait

/-!
# What a history executes

Some of the operations of a history execute instructions. `Machine.executionsAll` lists what was
executed, in order and with the machines before and after it; an instruction that was stopped is not
in the list.

Between two executions there are at most ticks and operations that execute nothing. A part of the
machine that these leave alone is handed on from each execution to the next one (`Leads`), first by
the machine before the history and last to the one after it (`leads_performAll`). So a history does
to that part what its executions do (`Leads.rel`).
-/

namespace Chip8

/-- An instruction that was executed. -/
structure Execution where
  /-- The machine before. -/
  before : Machine
  /-- The instruction. -/
  instruction : Instruction
  /-- The machine after. -/
  after : Machine
  /-- The instruction turns the one into the other. -/
  executed : before.execute instruction = .ok after

/-- Whether an operation executes instructions. -/
def Operation.executes : Operation → Bool
  | .step | .cycle | .execute _ | .executeAll _ => true
  | _ => false

namespace Machine

/-- The executions of instructions one after the other, up to the first that is stopped. -/
def executionsOf (m : Machine) : List Instruction → List Execution
  | [] => []
  | i :: rest =>
    match h : m.execute i with
    | .ok m' => ⟨m, i, m', h⟩ :: m'.executionsOf rest
    | .error _ => []

/-- The instructions that an operation is to execute. -/
def attempts (m : Machine) : Operation → List Instruction
  | .step | .cycle => (Instruction.decode? m.opcode).toList
  | .execute i => [i]
  | .executeAll is => is
  | _ => []

/-- The executions of an operation. -/
def executions (m : Machine) (op : Operation) : List Execution :=
  (m.tickedFor op).executionsOf (m.attempts op)

/-- The executions of operations performed one after the other. -/
def executionsAll (m : Machine) : List Operation → List Execution
  | [] => []
  | op :: rest => m.executions op ++ (m.perform op).machine.executionsAll rest

variable {m m' : Machine} {i : Instruction} {f : Fault}

theorem executionsOf_of_ok (h : m.execute i = .ok m') (rest : List Instruction) :
    m.executionsOf (i :: rest) = ⟨m, i, m', h⟩ :: m'.executionsOf rest := by
  rw [executionsOf]
  split
  · next m₁ h₁ =>
    obtain rfl := Except.ok.inj (h₁.symm.trans h)
    rfl
  · next f h₁ => cases h₁.symm.trans h

theorem executionsOf_of_error (h : m.execute i = .error f) (rest : List Instruction) :
    m.executionsOf (i :: rest) = [] := by
  rw [executionsOf]
  split
  · next m₁ h₁ => cases h₁.symm.trans h
  · rfl

end Machine

/-! ### One execution after the other -/

variable {α : Type}

/-- The executions hand a part of the machine on: the first finds it as `a`, each of the others as
the one before has left it, and the last leaves it as `b`. -/
inductive Leads (part : Machine → α) : α → List Execution → α → Prop
  | nil (a : α) : Leads part a [] a
  | cons (e : Execution) {rest : List Execution} {b : α} (h : Leads part (part e.after) rest b) :
    Leads part (part e.before) (e :: rest) b

namespace Leads

variable {part : Machine → α} {a b c : α} {es es' : List Execution}

theorem append (h : Leads part a es b) (h' : Leads part b es' c) :
    Leads part a (es ++ es') c := by
  induction h with
  | nil => exact h'
  | cons e _ ih => exact .cons e (ih h')

/-- If each execution relates what it finds to what it leaves, so do all of them together. -/
theorem rel {R : α → α → Prop} (hrefl : ∀ a, R a a) (htrans : ∀ a b c, R a b → R b c → R a c)
    (h : Leads part a es b) (hes : ∀ e ∈ es, R (part e.before) (part e.after)) : R a b := by
  induction h with
  | nil a => exact hrefl a
  | cons e _ ih =>
    rw [List.forall_mem_cons] at hes
    exact htrans _ _ _ hes.1 (ih hes.2)

end Leads

namespace Machine

variable {part : Machine → α}

theorem leads_executeAll (part : Machine → α) (m : Machine) (is : List Instruction) :
    Leads part (part m) (m.executionsOf is) (part (m.executeAll is).machine) := by
  induction is generalizing m with
  | nil => exact .nil _
  | cons i rest ih =>
    cases h : m.execute i with
    | ok m' =>
      have hmachine : (m.executeAll (i :: rest)).machine = (m'.executeAll rest).machine := by
        simp only [executeAll, h]
      rw [executionsOf_of_ok h, hmachine]
      exact .cons ⟨m, i, m', h⟩ (ih m')
    | error f =>
      have hmachine : (m.executeAll (i :: rest)).machine = m := by simp only [executeAll, h]
      rw [executionsOf_of_error h, hmachine]
      exact .nil _

theorem part_tickedFor (htick : ∀ m, part m.tick = part m) (m : Machine) (op : Operation) :
    part (m.tickedFor op) = part m := by
  cases op with
  | step => exact htick m
  | _ => rfl

/-- An attempt at an instruction leaves a part of the machine that is not ticked as executing no
more than this instruction does. -/
theorem part_ofAttempt (htick : ∀ m, part m.tick = part m) (m : Machine) (op : Operation)
    (log : List LogRecord) (i : Instruction) :
    part (Outcome.ofAttempt m log ((m.tickedFor op).execute i)).machine
      = part ((m.tickedFor op).executeAll [i]).machine := by
  cases h : (m.tickedFor op).execute i with
  | ok m' => simp only [executeAll, h, Outcome.ofAttempt, Outcome.quiet]
  | error f => simp only [executeAll, h, Outcome.ofAttempt, part_tickedFor htick]

/-- An operation that executes instructions leaves a part of the machine that is not ticked as these
do. -/
theorem part_perform (htick : ∀ m, part m.tick = part m) (m : Machine) {op : Operation}
    (hop : op.executes) :
    part (m.perform op).machine = part ((m.tickedFor op).executeAll (m.attempts op)).machine := by
  cases op with
  | step | cycle =>
    cases hi : Instruction.decode? m.opcode with
    | none =>
      -- nothing is executed, so the two machines differ by a tick at most
      rw [perform_of_not_decode? rfl hi, attempts, hi, Option.toList_none, executeAll,
        Outcome.quiet, part_tickedFor htick]
      rfl
    | some i =>
      rw [perform_of_decode? rfl hi, attempts, hi]
      exact part_ofAttempt htick m _ _ i
  | execute i => exact part_ofAttempt htick m (.execute i) _ i
  | executeAll is => rfl
  | _ => cases hop

/-- The executions of an operation hand on a part of the machine that is not ticked, and neither
touched by the operation if it executes nothing. -/
theorem leads_perform (part : Machine → α) (htick : ∀ m, part m.tick = part m) (m : Machine)
    {op : Operation} (hidle : op.executes = false → part (m.perform op).machine = part m) :
    Leads part (part m) (m.executions op) (part (m.perform op).machine) := by
  cases hop : op.executes with
  | true =>
    rw [part_perform htick m hop, ← part_tickedFor htick m op]
    exact leads_executeAll part (m.tickedFor op) (m.attempts op)
  | false =>
    have hnone : m.executions op = [] := by
      cases op with
      | step | cycle | execute i | executeAll is => cases hop
      | _ => rfl
    rw [hnone, hidle hop]
    exact .nil _

/-- The executions of a history hand on a part of the machine that is neither ticked nor touched by
those of the operations that execute nothing. -/
theorem leads_performAll (part : Machine → α) (htick : ∀ m, part m.tick = part m) (m : Machine)
    {ops : List Operation}
    (hidle : ∀ op ∈ ops, op.executes = false → ∀ m, part (m.perform op).machine = part m) :
    Leads part (part m) (m.executionsAll ops) (part (m.performAll ops)) := by
  induction ops generalizing m with
  | nil => exact .nil _
  | cons op rest ih =>
    rw [List.forall_mem_cons] at hidle
    have hfirst := leads_perform part htick m fun hop => hidle.1 hop m
    exact hfirst.append (ih (m.perform op).machine hidle.2)

theorem leads_performAll_of_executes (part : Machine → α) (htick : ∀ m, part m.tick = part m)
    (m : Machine) {ops : List Operation} (hops : ∀ op ∈ ops, op.executes) :
    Leads part (part m) (m.executionsAll ops) (part (m.performAll ops)) := by
  refine leads_performAll part htick m fun op hop hidle => ?_
  rw [hops op hop] at hidle
  cases hidle

end Machine

end Chip8
