import Chip8.Machine.Operation

/-!
# Two machines in lockstep

To compare two runs, the same is done to two machines that are related in some way, and they should
stay related and fail together. Whether they do is decided by a few things: they read the same
opcode, each instruction does related things to both, and what cannot fail keeps them related. A
relation of which this is known is a `Machine.Lockstep`; then every operation does related things to
both machines (`Lockstep.perform`), and so does every history (`Lockstep.performAll`).

The two machines may fail with faults that are not equal, as long as these are related too.
-/

namespace Chip8

/-! ### Results that are alike -/

variable {F : Fault → Fault → Prop} {R : Machine → Machine → Prop}

/-- Two errors are alike if a program was refused for the same reason, or if they are faults that
are related. -/
inductive Error.Alike (F : Fault → Fault → Prop) : Error → Error → Prop
  | load (e : LoadError) : Alike F (.load e) (.load e)
  | fault {f f' : Fault} (h : F f f') : Alike F (.fault f) (.fault f')

theorem Error.alike_eq_iff {e e' : Error} : Alike Eq e e' ↔ e = e' := by
  constructor
  · rintro (e | rfl)
    · rfl
    · rfl
  · rintro rfl
    cases e with
    | load e => exact .load e
    | fault f => exact .fault rfl

/-- Two attempts are alike if both are stopped or neither is, by related faults or with related
machines. -/
inductive AttemptsAlike (F : Fault → Fault → Prop) (R : Machine → Machine → Prop) :
    Except Fault Machine → Except Fault Machine → Prop
  | ok {m m' : Machine} (h : R m m') : AttemptsAlike F R (.ok m) (.ok m')
  | error {f f' : Fault} (h : F f f') : AttemptsAlike F R (.error f) (.error f')

/-- Two outcomes are alike if the machines are related and both are errors or neither is. -/
structure Outcome.Alike (F : Fault → Fault → Prop) (R : Machine → Machine → Prop)
    (o o' : Outcome) : Prop where
  machine : R o.machine o'.machine
  error? : Option.Rel (Error.Alike F) o.error? o'.error?

theorem Outcome.alike_ofAttempt {m m' : Machine} {log log' : List LogRecord}
    {x x' : Except Fault Machine} (hR : R m m') (h : AttemptsAlike F R x x') :
    Outcome.Alike F R (.ofAttempt m log x) (.ofAttempt m' log' x') := by
  cases h with
  | ok h => exact ⟨h, .none⟩
  | error h => exact ⟨hR, .some (.fault h)⟩

/-! ### Operations that cannot fail -/

/-- Whether an operation neither executes nor loads anything. -/
def Operation.isQuiet : Operation → Bool
  | step | cycle | execute _ | executeAll _ | load _ | loadFile .. => false
  | _ => true

namespace Machine

/-- What is to be known of a relation between machines, so that operations that satisfy `P` keep it
and fail on both machines alike. -/
structure Lockstep (P : Operation → Prop) (F : Fault → Fault → Prop)
    (R : Machine → Machine → Prop) : Prop where
  /-- Related machines have the same bytes in memory. -/
  memory {m m' : Machine} (h : R m m') : m.memory = m'.memory
  /-- They are about to execute the same instruction. -/
  opcode {m m' : Machine} (h : R m m') : m.opcode = m'.opcode
  /-- If that is none, they are stopped by related faults. -/
  unknownOpcode {m m' : Machine} (h : R m m') (w : UInt16) :
    F (.unknownOpcode w m.pc) (.unknownOpcode w m'.pc)
  /-- An instruction does related things to them. -/
  execute {m m' : Machine} (h : R m m') (i : Instruction) :
    AttemptsAlike F R (m.execute i) (m'.execute i)
  /-- So does a tick of the timers. -/
  tick {m m' : Machine} (h : R m m') : R m.tick m'.tick
  /-- So does a change of memory. -/
  setMemory {m m' : Machine} (h : R m m') (memory : Memory) :
    R { m with memory } { m' with memory }
  /-- So does every operation of interest that cannot fail. -/
  quiet {m m' : Machine} (h : R m m') {op : Operation} (hop : P op) (hquiet : op.isQuiet) :
    R (m.perform op).machine (m'.perform op).machine

namespace Lockstep

variable {P : Operation → Prop} {m m' : Machine}

/-! ### Executing -/

/-- Both machines fetch the same instruction, or are stopped before they fetch any. -/
theorem fetch (hL : Lockstep P F R) (h : R m m') :
    (∃ i, m.fetch = .ok i ∧ m'.fetch = .ok i) ∨
      ∃ f f', m.fetch = .error f ∧ m'.fetch = .error f' ∧ F f f' := by
  rw [Machine.fetch, Machine.fetch, hL.opcode h]
  cases Instruction.decode? m'.opcode with
  | some i => exact .inl ⟨i, rfl, rfl⟩
  | none => exact .inr ⟨_, _, rfl, rfl, hL.unknownOpcode h _⟩

theorem cycle (hL : Lockstep P F R) (h : R m m') : AttemptsAlike F R m.cycle m'.cycle := by
  rw [Machine.cycle, Machine.cycle]
  rcases hL.fetch h with ⟨i, hi, hi'⟩ | ⟨f, f', hf, hf', hF⟩
  · rw [hi, hi']
    exact hL.execute h i
  · rw [hf, hf']
    exact .error hF

theorem step (hL : Lockstep P F R) (h : R m m') : AttemptsAlike F R m.step m'.step := by
  rw [Machine.step, Machine.step]
  rcases hL.fetch h with ⟨i, hi, hi'⟩ | ⟨f, f', hf, hf', hF⟩
  · rw [hi, hi']
    exact hL.execute (hL.tick h) i
  · rw [hf, hf']
    exact .error hF

theorem executeAll (hL : Lockstep P F R) (h : R m m') (is : List Instruction) :
    Outcome.Alike F R (m.executeAll is) (m'.executeAll is) := by
  induction is generalizing m m' with
  | nil => exact ⟨h, .none⟩
  | cons i rest ih =>
    have hone := hL.execute h i
    rw [Machine.executeAll, Machine.executeAll]
    generalize m.execute i = x at hone ⊢
    generalize m'.execute i = x' at hone ⊢
    cases hone with
    | ok h' => exact ⟨(ih h').machine, (ih h').error?⟩
    | error hF => exact ⟨h, .some (.fault hF)⟩

/-! ### Loading -/

theorem load (hL : Lockstep P F R) (h : R m m') (log log' : List LogRecord)
    (program : List UInt8) :
    Outcome.Alike F R (.ofLoad m log (m.load program)) (.ofLoad m' log' (m'.load program)) := by
  rw [Machine.load, Machine.load, hL.memory h]
  cases m'.memory.load program with
  | ok memory => exact ⟨hL.setMemory h memory, .none⟩
  | error e => exact ⟨h, .some (.load e)⟩

theorem loadFile (hL : Lockstep P F R) (h : R m m') (path : String)
    (contents : Except ReadError (List UInt8)) :
    Outcome.Alike F R (m.loadFile path contents) (m'.loadFile path contents) := by
  cases contents with
  | error reason => exact ⟨h, .some (.load _)⟩
  | ok program =>
    have hload := hL.load h [.loaded program.length] [.loaded program.length] program
    exact ⟨hload.machine, hload.error?⟩

/-! ### Histories -/

theorem error?_of_isQuiet {op : Operation} (hop : op.isQuiet) (m : Machine) :
    (m.perform op).error? = none := by
  cases op with
  | step | cycle | execute i | executeAll is | load program | loadFile path contents => cases hop
  | _ => rfl

/-- Every operation does related things to both machines. -/
theorem perform (hL : Lockstep P F R) (h : R m m') {op : Operation} (hop : P op) :
    Outcome.Alike F R (m.perform op) (m'.perform op) := by
  cases hquiet : op.isQuiet with
  | true =>
    refine ⟨hL.quiet h hop hquiet, ?_⟩
    rw [error?_of_isQuiet hquiet, error?_of_isQuiet hquiet]
    exact .none
  | false =>
    cases op with
    | step => exact Outcome.alike_ofAttempt h (hL.step h)
    | cycle => exact Outcome.alike_ofAttempt h (hL.cycle h)
    | execute i => exact Outcome.alike_ofAttempt h (hL.execute h i)
    | executeAll is => exact hL.executeAll h is
    | load program => exact hL.load h _ _ program
    | loadFile path contents => exact hL.loadFile h path contents
    | _ => cases hquiet

/-- Every history keeps the machines related. -/
theorem performAll (hL : Lockstep P F R) (h : R m m') {ops : List Operation}
    (hops : ∀ op ∈ ops, P op) : R (m.performAll ops) (m'.performAll ops) := by
  induction ops generalizing m m' with
  | nil => exact h
  | cons op rest ih =>
    rw [List.forall_mem_cons] at hops
    exact ih (hL.perform h hops.1).machine hops.2

end Lockstep

end Machine

end Chip8
