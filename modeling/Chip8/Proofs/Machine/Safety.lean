import Chip8.Proofs.Machine.Atomicity
import Chip8.Proofs.Machine.OpenCalls
import Chip8.Proofs.Machine.Tables

/-!
# What cannot go wrong

A `Checked` program works on the tables of a machine and may panic. `Checked.Simulates` says that it
does to the tables what a program of `Chip8.Machine.InPlace` does to the machine. This is shown by
following the two programs side by side, for every instruction (`simulates_apply`), for fetching
and stepping, and so for every operation (`run_perform`) and every history of them
(`performAll_store`).

The only panic that these programs and a machine have in common is the one of a sprite that is too
tall (`Stop.ofFault`). No opcode asks for such a sprite, so a step never panics and always puts the
timers back where it fails (`simulates_step`). Everything else about the tables is read off the
machine that they belong to: a pixel or a key is a truth value, and the stack depth is kept within
bounds by calls and returns (`depth_performAll`).
-/

namespace Chip8

/-- What a fault comes to: a sprite that is too tall is cut out of a buffer that is too small. -/
def Stop.ofFault : Fault → Stop
  | .spriteTooTall n => .panic (.outOfRange n.toNat 15)
  | f => .error (.fault f)

/-- What an error comes to. -/
def Stop.ofError : Error → Stop
  | .fault f => .ofFault f
  | .load e => .error (.load e)

namespace Checked

/-! ### Programs on machines and on stores -/

/-- What a program has made of the machine, laid out in tables. -/
def stored {α : Type} : EStateM.Result Fault Machine α → EStateM.Result Stop Store α
  | .ok a m => .ok a m.store
  | .error f m => .error (.ofFault f) m.store

/-- A checked program does on stores what another one does on machines. -/
def Simulates {α : Type} (c : Checked α) (u : Update α) : Prop :=
  ∀ m, c.run m.store = stored (u.run m)

namespace Simulates

variable {α β : Type} {c : Checked α} {u : Update α}

theorem pure (a : α) : Simulates (pure a) (pure a) :=
  fun _ => rfl

theorem bind {f : α → Checked β} {g : α → Update β} (h : Simulates c u)
    (hf : ∀ a, Simulates (f a) (g a)) : Simulates (c >>= f) (u >>= g) := by
  intro m
  rw [EStateM.run_bind, EStateM.run_bind, h m]
  cases u.run m with
  | ok a m' => exact hf a m'
  | error f m' => rfl

/-- What is done may depend on what the state is. -/
theorem get_bind {f : Store → Checked β} {g : Machine → Update β}
    (h : ∀ m, Simulates (f m.store) (g m)) : Simulates (get >>= f) (get >>= g) :=
  fun m => h m m

theorem modify {f : Store → Store} {g : Machine → Machine} (h : ∀ m, f m.store = (g m).store) :
    Simulates (modify f) (modify g) :=
  fun m => congrArg (EStateM.Result.ok ()) (h m)

end Simulates

theorem simulates_register (x : UInt8) : Simulates (register x) (Update.read x) :=
  fun m => run_register m x

theorem simulates_setRegister (x b : UInt8) : Simulates (setRegister x b) (Update.write x b) :=
  fun m => run_setRegister m x b

theorem simulates_setFlag (condition : Bool) :
    Simulates (setFlag condition) (Update.writeFlag condition) :=
  fun m => run_setFlag m condition

/-! ### Instructions -/

theorem simulates_ret : Simulates (apply .ret) (Update.apply .ret) := by
  intro m
  -- a depth that has been set may be too large for the slots, which underflows like 0
  have hsp : m.store.sp = m.calls.depth := rfl
  have hslot : m.store.stack[(m.calls.depth - 1).toNat]? = m.calls.slot? (m.calls.depth - 1) := rfl
  by_cases hd : m.calls.depth = 0
  · simp [apply, Update.apply, hsp, hd, stored, Stop.ofFault]
    rfl
  · cases hs : m.calls.slot? (m.calls.depth - 1) with
    | none =>
      simp [apply, Update.apply, hsp, hd, hslot, hs, stored, Stop.ofFault]
      rfl
    | some site =>
      simp [apply, Update.apply, hsp, hd, hslot, hs, stored]
      rfl

theorem simulates_call (a : UInt16) : Simulates (apply (.call a)) (Update.apply (.call a)) := by
  intro m
  have hsp : m.store.sp = m.calls.depth := rfl
  by_cases hd : m.calls.depth.toNat < 16
  · have hadd : addBytes m.calls.depth 1 = pure (m.calls.depth + 1) :=
      fitting_of (show m.calls.depth.toNat + 1 < 256 by omega) _
    simp [apply, Update.apply, hsp, hd, CallStack.setSlot?, hadd, stored]
    rfl
  · simp [apply, Update.apply, hsp, hd, CallStack.setSlot?, stored, Stop.ofFault]
    rfl

theorem simulates_waitForKey (x : UInt8) :
    Simulates (apply (.waitForKey x)) (Update.apply (.waitForKey x)) := by
  refine .get_bind fun m => ?_
  rw [firstPressed?_store]
  cases m.keypad.firstPressed? with
  | none => exact .bind (.modify fun _ => rfl) fun _ => .pure _
  | some key =>
    exact .bind (simulates_setRegister x key) fun _ => .bind (.modify fun _ => rfl) fun _ => .pure _

/-- A sprite is cut out of the buffer before anything is drawn. -/
theorem simulates_draw (x y n : UInt8) :
    Simulates (apply (.draw x y n)) (Update.apply (.draw x y n)) := by
  intro m
  by_cases hn : Machine.spriteLimit < n
  · have hlarge : 15 < n.toNat := UInt8.lt_iff_toNat_lt.1 hn
    simp [apply, Update.apply, hn, run_spriteBuffer, first_of_lt hlarge, stored, Stop.ofFault]
    rfl
  · have hsmall : n.toNat ≤ 15 := UInt8.le_iff_toNat_le.1 (UInt8.not_lt.1 hn)
    have hlength : (m.sprite n).length ≤ 15 := by
      rw [Machine.sprite, Memory.length_readBlock]
      exact hsmall
    simp [apply, Update.apply, hn, run_spriteBuffer, first_buffered m hsmall,
      run_drawSprite m _ _ hlength, struck, stored, Update.read, Update.writeFlag, Display.draw]
    rfl

/-- A byte that is written at an address which depends on the address register. -/
theorem simulates_write_bind {α : Type} {f : Unit → Checked α} {g : Unit → Update α}
    (address : UInt16 → UInt16) (b : UInt8) (h : ∀ a, Simulates (f a) (g a)) :
    Simulates (do
        let s ← get
        write (address s.i) b >>= f)
      ((modify fun m : Machine => { m with memory := m.memory.write (address m.i) b }) >>= g) := by
  intro m
  show (write (address m.i) b >>= f).run m.store = _
  rw [EStateM.run_bind, run_write]
  exact h () _

theorem simulates_dump (x : UInt8) : Simulates (apply (.dump x)) (Update.apply (.dump x)) := by
  have hdump : Simulates (forBelow dumpOne ((x &&& 0xF).toNat + 1))
      (modify fun m => { m with memory := m.memory.writeBlock m.i (m.v.upTo x) }) := by
    intro m
    rw [toNat_and_add]
    exact run_dump m (Registers.slotOf x).isLt
  exact .bind hdump fun _ => .pure _

theorem simulates_restore (x : UInt8) :
    Simulates (apply (.restore x)) (Update.apply (.restore x)) := by
  have hrestore : Simulates (forBelow restoreOne ((x &&& 0xF).toNat + 1)) (modify fun m =>
      { m with v := m.v.setFrom 0 (m.memory.readBlock m.i ((Registers.slotOf x).val + 1)) }) := by
    intro m
    rw [toNat_and_add]
    exact run_restore m (Registers.slotOf x).isLt
  exact .bind hrestore fun _ => .pure _

/-- A register is set to what it makes together with another one. -/
theorem simulates_combine (x y : UInt8) (f : UInt8 → UInt8 → UInt8) :
    Simulates
      (do
        setRegister x (f (← register x) (← register y))
        return Flow.next)
      (do
        Update.write x (f (← Update.read x) (← Update.read y))
        return Flow.next) :=
  .bind (simulates_register x) fun _ => .bind (simulates_register y) fun _ =>
    .bind (simulates_setRegister x _) fun _ => .pure _

/-- And the flag tells something about the two. -/
theorem simulates_combine_setFlag (x y : UInt8) (f : UInt8 → UInt8 → UInt8)
    (flag : UInt8 → UInt8 → Bool) :
    Simulates
      (do
        let a ← register x
        let b ← register y
        setRegister x (f a b)
        setFlag (flag a b)
        return Flow.next)
      (do
        let a ← Update.read x
        let b ← Update.read y
        Update.write x (f a b)
        Update.writeFlag (flag a b)
        return Flow.next) :=
  .bind (simulates_register x) fun _ => .bind (simulates_register y) fun _ =>
    .bind (simulates_setRegister x _) fun _ => .bind (simulates_setFlag _) fun _ => .pure _

/-- Every instruction does to the tables what it does to the machine. -/
theorem simulates_apply (i : Instruction) : Simulates (apply i) (Update.apply i) := by
  -- the two programs are taken apart side by side, one access after the other
  cases i with
  | sys a => exact .pure _
  | clearScreen =>
    exact .bind (.modify store_blank) fun _ => .bind (.modify fun _ => rfl) fun _ => .pure _
  | ret => exact simulates_ret
  | jump a => exact .pure _
  | call a => exact simulates_call a
  | skipIfEqual x n => exact .bind (simulates_register x) fun a => .pure _
  | skipIfNotEqual x n => exact .bind (simulates_register x) fun a => .pure _
  | skipIfSame x y =>
    exact .bind (simulates_register x) fun a => .bind (simulates_register y) fun b => .pure _
  | skipIfDifferent x y =>
    exact .bind (simulates_register x) fun a => .bind (simulates_register y) fun b => .pure _
  | skipIfPressed x =>
    exact .get_bind fun m => .bind (simulates_register x) fun a => isPressed_store m a ▸ .pure _
  | skipIfReleased x =>
    exact .get_bind fun m => .bind (simulates_register x) fun a => isPressed_store m a ▸ .pure _
  | draw x y n => exact simulates_draw x y n
  | waitForKey x => exact simulates_waitForKey x
  | shiftRight x =>
    exact .bind (simulates_register x) fun a => .bind (simulates_setRegister x _) fun _ =>
      .bind (and_one_eq a ▸ simulates_setFlag _) fun _ => .pure _
  | shiftLeft x =>
    exact .bind (simulates_register x) fun a => .bind (simulates_setRegister x _) fun _ =>
      .bind (shiftRight_eq a ▸ simulates_setFlag _) fun _ => .pure _
  | jumpOffset a =>
    exact .get_bind fun m => .bind (simulates_register 0) fun b => .pure _
  | pointToGlyph x =>
    refine .bind (simulates_register x) fun b => ?_
    rw [multiplyWords_glyph, pure_bind]
    exact .bind (.modify fun _ => rfl) fun _ => .pure _
  | storeDecimal x =>
    exact .bind (simulates_register x) fun b => simulates_write_bind (fun a => a) _ fun _ =>
      simulates_write_bind (· + 1) _ fun _ => simulates_write_bind (· + 2) _ fun _ => .pure _
  | dump x => exact simulates_dump x
  | restore x => exact simulates_restore x
  | set x n => exact .bind (simulates_setRegister x n) fun _ => .pure _
  | increase x n =>
    exact .bind (simulates_register x) fun a => .bind (simulates_setRegister x _) fun _ => .pure _
  | copy x y =>
    exact .bind (simulates_register y) fun a => .bind (simulates_setRegister x _) fun _ => .pure _
  | bitOr x y => exact simulates_combine x y (· ||| ·)
  | bitAnd x y => exact simulates_combine x y (· &&& ·)
  | bitXor x y => exact simulates_combine x y (· ^^^ ·)
  | add x y =>
    exact simulates_combine_setFlag x y (· + ·) fun a b => decide (a.toNat + b.toNat > 255)
  | subtract x y => exact simulates_combine_setFlag x y (· - ·) fun a b => decide (b ≤ a)
  | subtractFrom x y =>
    exact simulates_combine_setFlag x y (fun a b => b - a) fun a b => decide (a ≤ b)
  | point a => exact .bind (.modify fun _ => rfl) fun _ => .pure _
  | random x n =>
    exact .get_bind fun m => .bind (.modify fun _ => rfl) fun _ =>
      .bind (simulates_setRegister x _) fun _ => .pure _
  | readDelay x =>
    exact .get_bind fun m => .bind (simulates_setRegister x _) fun _ => .pure _
  | setDelay x =>
    exact .bind (simulates_register x) fun b => .bind (.modify fun _ => rfl) fun _ => .pure _
  | setSound x =>
    exact .bind (simulates_register x) fun b => .bind (.modify fun _ => rfl) fun _ => .pure _
  | advance x =>
    exact .bind (simulates_register x) fun b => .bind (.modify fun _ => rfl) fun _ => .pure _

/-- Executing an instruction comes to the same, on tables. -/
theorem simulates_execute (i : Instruction) : Simulates (execute i) (Update.execute i) :=
  .bind (simulates_apply i) fun _ => .modify fun _ => rfl

theorem run_execute (m : Machine) (i : Instruction) :
    (execute i).run m.store = stored (Update.leave m (m.execute i)) := by
  rw [simulates_execute, Update.run_execute]

theorem simulates_executeAll (is : List Instruction) :
    Simulates (executeAll is) (Update.executeAll is) := by
  induction is with
  | nil => exact .pure ()
  | cons i rest ih => exact .bind (simulates_execute i) fun _ => ih

theorem simulates_fetch : Simulates fetch Update.fetch := by
  intro m
  have hword : (readWord m.pc).run m.store = .ok m.opcode.toWord m.store := run_readWord m m.pc
  have hpc : m.store.pc = m.pc := rfl
  rw [Update.run_fetch, fetch]
  simp only [EStateM.run_bind, EStateM.run_get, hpc, hword, Opcode.ofWord_toWord, Machine.fetch]
  cases Instruction.decode? m.opcode with
  | some i => rfl
  | none => rfl

theorem simulates_cycle : Simulates cycle Update.cycle :=
  .bind simulates_fetch simulates_execute

/-- No instruction that was fetched makes a program panic. -/
theorem ofFault_of_fetch {m m' : Machine} {i : Instruction} {f : Fault} (hi : m.fetch = .ok i)
    (hf : m'.execute i = .error f) : Stop.ofFault f = .error (.fault f) := by
  cases Machine.execute_eq_error_iff.1 hf with
  | overflow a _ => rfl
  | underflow _ => rfl
  | tooTall x y n hn =>
    have hle := Instruction.le_of_decode?_draw (Machine.decode?_of_fetch hi)
    exact absurd (UInt8.lt_iff_toNat_lt.1 hn) (Nat.not_lt.2 hle)

theorem run_tryCatch (c : Checked Unit) (handle : Stop → Checked Unit) (s : Store) :
    (tryCatch c handle : Checked Unit).run s
      = match c.run s with
        | .ok () s' => .ok () s'
        | .error e s' => (handle e).run s' := by
  show EStateM.tryCatch c handle s = _
  delta EStateM.tryCatch EStateM.run
  cases c s with
  | ok _ s' => rfl
  | error e s' => rfl

/-- A step does not panic, so the timers are put back wherever it is stopped. -/
theorem simulates_step : Simulates step Update.step := by
  intro m
  rw [Update.run_step, step, EStateM.run_bind, simulates_fetch, Update.run_fetch, Machine.step]
  cases hi : m.fetch with
  | error f => rfl
  | ok i =>
    have htick : tick.run m.store = .ok () m.tick.store := rfl
    have hexecute := run_execute m.tick i
    simp only [stored, EStateM.run_bind, EStateM.run_get, htick, run_tryCatch, hexecute]
    cases hresult : m.tick.execute i with
    | ok m' => rfl
    | error f =>
      simp only [Update.leave, ofFault_of_fetch hi hresult]
      rfl

/-! ### Operations -/

/-- What the outcome of an operation leaves of the store. -/
def finished (o : Outcome) : EStateM.Result Stop Store Unit :=
  match o.error? with
  | none => .ok () o.machine.store
  | some e => .error (.ofError e) o.machine.store

theorem finished_outcome (log : List LogRecord) (r : EStateM.Result Fault Machine Unit) :
    finished (Update.outcome log r) = stored r := by
  cases r with
  | ok _ m => rfl
  | error f m => rfl

theorem simulates_reset : Simulates reset Update.reset := by
  have hfont : Simulates (copy 0 font) (modify fun m => { m with memory := m.memory.withFont }) :=
    fun m => run_copy m 0 font (by decide)
  exact .bind (.modify fun _ => rfl) fun _ => .bind (.modify fun _ => rfl) fun _ =>
    .bind hfont fun _ => .bind (.modify fun _ => rfl) fun _ =>
    .bind (.modify store_released) fun _ => .bind (.modify store_blank) fun _ =>
    .bind (.modify fun _ => rfl) fun _ => .modify fun _ => rfl

theorem run_load (m : Machine) (log : List LogRecord) (program : List UInt8) :
    (load program).run m.store = finished (.ofLoad m log (m.load program)) := by
  rw [load, Machine.load]
  by_cases h : programLimit < program.length
  · rw [m.memory.load_of_not_fits h, if_pos h]
    rfl
  · have hfits : program.length ≤ 3584 := Nat.not_lt.1 h
    have hload : m.memory.load program = .ok (m.memory.writeBlock programStart program) :=
      if_pos hfits
    rw [hload, if_neg h]
    exact run_copy m 512 program (by omega)

theorem run_setKey (m : Machine) (key : UInt8) (isDown : Bool) :
    (setKey key isDown).run m.store
      = .ok () { m with keypad := m.keypad.set key isDown }.store := by
  have hkeys : m.store.keys.setIfInBounds key.toNat isDown.toUInt8
      = (m.keypad.set key isDown).down.map Bool.toUInt8 := by
    refine Vector.ext fun k hk => ?_
    rw [Vector.getElem_setIfInBounds hk, Vector.getElem_map, Keypad.set]
    split
    · next h =>
      subst h
      rw [dif_pos hk, Vector.getElem_set_self]
    · next h =>
      split
      · rw [Vector.getElem_set_ne _ _ h]
        exact Vector.getElem_map ..
      · exact Vector.getElem_map ..
  exact congrArg (fun keys => EStateM.Result.ok () { m.store with keys }) hkeys

/-- What an operation makes of the tables is what it makes of the machine. -/
theorem run_perform (m : Machine) (op : Operation) :
    (perform op).run m.store = finished (m.perform op) := by
  cases op with
  | step =>
    rw [Machine.perform, ← Update.outcome_leave, finished_outcome, ← Update.run_step]
    exact simulates_step m
  | cycle =>
    rw [Machine.perform, ← Update.outcome_leave, finished_outcome, ← Update.run_cycle]
    exact simulates_cycle m
  | execute i =>
    rw [Machine.perform, ← Update.outcome_leave, finished_outcome, ← Update.run_execute]
    exact simulates_execute i m
  | executeAll is =>
    rw [Machine.perform, ← Update.outcome_executeAll, finished_outcome]
    exact simulates_executeAll is m
  | reset => exact simulates_reset m
  | load program => exact run_load m _ program
  | loadFile path contents =>
    cases contents with
    | error reason => rfl
    | ok program => exact run_load m [.loaded program.length] program
  | press key => exact run_setKey m key true
  | release key => exact run_setKey m key false
  | releaseAll => exact congrArg (EStateM.Result.ok ()) (store_released m)
  | poke a b => exact run_write m a b
  | setRegister x b => exact run_setRegister m x b
  | _ => rfl

theorem left_finished (o : Outcome) : left (finished o) = o.machine.store := by
  rw [finished]
  cases o.error? with
  | none => rfl
  | some e => rfl

/-- So the tables follow the machine through every history. -/
theorem performAll_store (m : Machine) (ops : List Operation) :
    performAll m.store ops = (m.performAll ops).store := by
  induction ops generalizing m with
  | nil => rfl
  | cons op rest ih =>
    have hone : left ((perform op).run m.store) = (m.perform op).machine.store := by
      rw [run_perform, left_finished]
    rw [performAll, List.foldl_cons, hone]
    exact ih _

theorem run_switchOn (random : RandomSource) :
    switchOn.run (.zeros random) = .ok () (Machine.initial random).store := by
  have hzeros : Store.zeros random = { Machine.initial random with memory := .zeros }.store := by
    refine (congrArg (fun cells => { Store.zeros random with cells }) ?_).trans
      (store_released { Machine.initial random with memory := .zeros })
    exact (cells_blank { Machine.initial random with memory := .zeros }).symm
  rw [hzeros]
  exact run_copy _ 0 font (by decide)

/-! ### Panics -/

/-- An instruction panics iff it draws a sprite that is too tall, and has changed nothing then. -/
theorem execute_eq_panic_iff {m : Machine} {i : Instruction} {p : Panic} {s : Store} :
    (execute i).run m.store = .error (.panic p) s
      ↔ (∃ x y n, 15 < n.toNat ∧ i = .draw x y n ∧ p = .outOfRange n.toNat 15) ∧ s = m.store := by
  constructor
  · intro h
    rw [run_execute] at h
    cases he : m.execute i with
    | ok m' =>
      rw [he] at h
      cases h
    | error f =>
      rw [he] at h
      obtain ⟨hstop, hs⟩ := EStateM.Result.error.inj h
      refine ⟨?_, hs.symm⟩
      cases Machine.execute_eq_error_iff.1 he with
      | overflow a _ => cases hstop
      | underflow _ => cases hstop
      | tooTall x y n hn =>
        cases hstop
        exact ⟨x, y, n, UInt8.lt_iff_toNat_lt.1 hn, rfl, rfl⟩
  · rintro ⟨⟨x, y, n, hn, rfl, rfl⟩, rfl⟩
    have he : m.execute (.draw x y n) = .error (.spriteTooTall n) :=
      Machine.execute_eq_error_iff.2 (.tooTall x y n (UInt8.lt_iff_toNat_lt.2 hn))
    rw [run_execute, he]
    rfl

/-- Of a list of instructions it is the first one that is stopped which panics, and those before it
have taken effect. -/
theorem exists_of_executeAll_panic {is : List Instruction} {m : Machine} {p : Panic} {s : Store}
    (h : (executeAll is).run m.store = .error (.panic p) s) :
    ∃ before x y n after, is = before ++ .draw x y n :: after ∧ 15 < n.toNat ∧
      p = .outOfRange n.toNat 15 ∧ (executeAll before).run m.store = .ok () s := by
  induction is generalizing m with
  | nil => cases h
  | cons i rest ih =>
    have hone := run_execute m i
    rw [executeAll, EStateM.run_bind] at h
    cases he : m.execute i with
    | ok m' =>
      rw [he] at hone
      rw [hone] at h
      obtain ⟨before, x, y, n, after, rfl, hn, hp, hbefore⟩ := ih h
      refine ⟨i :: before, x, y, n, after, rfl, hn, hp, ?_⟩
      rw [executeAll, EStateM.run_bind, hone]
      exact hbefore
    | error f =>
      rw [he] at hone
      rw [hone] at h
      obtain ⟨⟨x, y, n, hn, rfl, hp⟩, rfl⟩ := execute_eq_panic_iff.1 (hone.trans h)
      exact ⟨[], x, y, n, rest, rfl, hn, hp, rfl⟩

/-- A panic stands for the fault of a sprite that is too tall. -/
theorem error?_of_finished_eq_panic {o : Outcome} {p : Panic} {s : Store}
    (h : finished o = .error (.panic p) s) : ∃ n, o.error? = some (.fault (.spriteTooTall n)) := by
  rw [finished] at h
  cases he : o.error? with
  | none =>
    rw [he] at h
    cases h
  | some e =>
    rw [he] at h
    obtain ⟨hstop, -⟩ := EStateM.Result.error.inj h
    cases e with
    | load e => cases hstop
    | fault f =>
      cases f with
      | spriteTooTall n => exact ⟨n, rfl⟩
      | _ => cases hstop

theorem perform_ne_panic {m : Machine} {op : Operation}
    (h : ∀ n, (m.perform op).error? ≠ some (.fault (.spriteTooTall n))) (p : Panic) (s : Store) :
    (perform op).run m.store ≠ .error (.panic p) s := by
  intro hpanic
  rw [run_perform] at hpanic
  obtain ⟨n, herror⟩ := error?_of_finished_eq_panic hpanic
  exact h n herror

theorem step_ne_panic (m : Machine) (p : Panic) (s : Store) :
    (perform .step).run m.store ≠ .error (.panic p) s := by
  refine perform_ne_panic (fun n herror => ?_) p s
  obtain ⟨f, hf, hstep⟩ := Machine.error?_ofAttempt_iff.1 herror
  cases hf
  cases Machine.step_eq_error_iff.1 hstep

theorem cycle_ne_panic (m : Machine) (p : Panic) (s : Store) :
    (perform .cycle).run m.store ≠ .error (.panic p) s := by
  refine perform_ne_panic (fun n herror => ?_) p s
  obtain ⟨f, hf, hcycle⟩ := Machine.error?_ofAttempt_iff.1 herror
  cases hf
  cases Machine.cycle_eq_error_iff.1 hcycle

theorem ofLoad_error?_ne (m : Machine) (log : List LogRecord) (program : List UInt8) (f : Fault) :
    (Outcome.ofLoad m log (m.load program)).error? ≠ some (.fault f) := by
  cases m.load program with
  | ok m' => exact nofun
  | error e => exact nofun

/-- Nothing else that can be done panics. -/
theorem of_perform_panic {m : Machine} {op : Operation} {p : Panic} {s : Store}
    (h : (perform op).run m.store = .error (.panic p) s) :
    ∃ x y n, 15 < n.toNat ∧ p = .outOfRange n.toNat 15 ∧
      (op = .execute (.draw x y n) ∧ s = m.store ∨
        ∃ before after, op = .executeAll (before ++ .draw x y n :: after) ∧
          (perform (.executeAll before)).run m.store = .ok () s) := by
  obtain ⟨n, herror⟩ := error?_of_finished_eq_panic ((run_perform m op).symm.trans h)
  cases op with
  | execute i =>
    obtain ⟨⟨x, y, n, hn, rfl, hp⟩, hs⟩ := execute_eq_panic_iff.1 h
    exact ⟨x, y, n, hn, hp, .inl ⟨rfl, hs⟩⟩
  | executeAll is =>
    obtain ⟨before, x, y, n, after, rfl, hn, hp, hbefore⟩ := exists_of_executeAll_panic h
    exact ⟨x, y, n, hn, hp, .inr ⟨before, after, rfl, hbefore⟩⟩
  | step => exact absurd h (step_ne_panic m p s)
  | cycle => exact absurd h (cycle_ne_panic m p s)
  | load program => exact absurd herror (ofLoad_error?_ne m _ program _)
  | loadFile path contents =>
    cases contents with
    | error reason => cases herror
    | ok program => exact absurd herror (ofLoad_error?_ne m _ program _)
  | _ => cases herror

/-! ### Bounds -/

theorem toUInt8_eq_zero_or_one (b : Bool) : b.toUInt8 = 0 ∨ b.toUInt8 = 1 := by
  cases b with
  | false => exact .inl rfl
  | true => exact .inr rfl

theorem cell_eq_zero_or_one (m : Machine) {line : Vector UInt8 64} {cell : UInt8}
    (hline : line ∈ m.store.cells) (hcell : cell ∈ line) : cell = 0 ∨ cell = 1 := by
  obtain ⟨y, hy, rfl⟩ := Vector.getElem_of_mem hline
  obtain ⟨x, hx, rfl⟩ := Vector.getElem_of_mem hcell
  rw [getElem_cells]
  exact toUInt8_eq_zero_or_one _

theorem key_eq_zero_or_one (m : Machine) {key : UInt8} (h : key ∈ m.store.keys) :
    key = 0 ∨ key = 1 := by
  obtain ⟨down, -, rfl⟩ := Vector.mem_map.1 h
  exact toUInt8_eq_zero_or_one down

theorem depth_executeAll {m : Machine} (hd : m.calls.depth.toNat ≤ 16) (is : List Instruction) :
    (m.executeAll is).machine.calls.depth.toNat ≤ 16 := by
  induction is generalizing m with
  | nil => exact hd
  | cons i rest ih =>
    rw [Machine.executeAll]
    cases he : m.execute i with
    | ok m' => exact ih (Machine.openCalls_of_execute he hd).1
    | error f => exact hd

/-- Whatever is done, calls and returns keep the depth within bounds. -/
theorem depth_perform {m : Machine} {op : Operation} (hop : ∀ n, op ≠ .setDepth n)
    (hd : m.calls.depth.toNat ≤ 16) : (m.perform op).machine.calls.depth.toNat ≤ 16 := by
  cases op with
  | executeAll is => exact depth_executeAll hd is
  | setDepth n => exact absurd rfl (hop n)
  | _ => exact (Machine.openCalls_perform rfl hd).1

theorem depth_performAll {m : Machine} {ops : List Operation} (hops : ∀ n, .setDepth n ∉ ops)
    (hd : m.calls.depth.toNat ≤ 16) : (m.performAll ops).calls.depth.toNat ≤ 16 := by
  induction ops generalizing m with
  | nil => exact hd
  | cons op rest ih =>
    refine ih (fun n hn => hops n (List.mem_cons_of_mem op hn)) (depth_perform (fun n hn => ?_) hd)
    exact hops n (hn ▸ List.mem_cons_self)

/-- From a machine that has been switched on, whatever is done to it and whatever stops that, its
tables are those of the machine that the same history gives, and every operation comes to the same.
Only the execution of a sprite taller than 15 rows panics, alone or in a list of instructions: it
leaves the tables as it finds them, and no opcode stands for it, so no step and no cycle does. Every
pixel and every key is 0 or 1, and the depth is at most 16 unless it has been set. -/
theorem no_panic_but_tall_sprites (random : RandomSource) (ops : List Operation) :
    ∃ started, switchOn.run (.zeros random) = .ok () started ∧
      let s := performAll started ops
      let m := (Machine.initial random).performAll ops
      (s = m.store ∧ ∀ op, (perform op).run s = finished (m.perform op)) ∧
      (∀ op p s', (perform op).run s = .error (.panic p) s' →
        ∃ x y n, 15 < n.toNat ∧ p = .outOfRange n.toNat 15 ∧
          (op = .execute (.draw x y n) ∧ s' = s ∨
            ∃ before after, op = .executeAll (before ++ .draw x y n :: after) ∧
              (perform (.executeAll before)).run s = .ok () s')) ∧
      (∀ x y n, 15 < n.toNat →
        (perform (.execute (.draw x y n))).run s = .error (.panic (.outOfRange n.toNat 15)) s) ∧
      (∀ opcode x y n, Instruction.decode? opcode = some (.draw x y n) → n.toNat ≤ 15) ∧
      (∀ p s', (perform .step).run s ≠ .error (.panic p) s' ∧
        (perform .cycle).run s ≠ .error (.panic p) s') ∧
      ((∀ line ∈ s.cells, ∀ cell ∈ line, cell = 0 ∨ cell = 1) ∧
        ∀ key ∈ s.keys, key = 0 ∨ key = 1) ∧
      ((∀ n, .setDepth n ∉ ops) → s.sp.toNat ≤ 16) := by
  refine ⟨_, run_switchOn random, ?_⟩
  intro s m
  have hs : s = m.store := performAll_store (.initial random) ops
  rw [hs]
  refine ⟨⟨rfl, run_perform m⟩, fun op p s' h => of_perform_panic h, fun x y n hn => ?_,
    fun opcode x y n h => Instruction.le_of_decode?_draw h,
    fun p s' => ⟨step_ne_panic m p s', cycle_ne_panic m p s'⟩,
    ⟨fun line hline cell hcell => cell_eq_zero_or_one m hline hcell,
      fun key hkey => key_eq_zero_or_one m hkey⟩, fun hops => ?_⟩
  · exact execute_eq_panic_iff.2 ⟨⟨x, y, n, hn, rfl, rfl⟩, rfl⟩
  · exact depth_performAll hops (Nat.zero_le 16)

/-- After a sprite of 16 rows has panicked, a return without a call has failed and a key that there
is not has been pressed, a sprite of 16 rows panics again, and no call is open. -/
theorem no_panic_but_tall_sprites_of_sixteen_rows :
    ∃ started, switchOn.run (.zeros (.ofSeed 0)) = .ok () started ∧
      let s := performAll started [.execute (.draw 0 0 16), .execute .ret, .press 99]
      (perform (.execute (.draw 1 2 16))).run s = .error (.panic (.outOfRange 16 15)) s ∧
        s.sp.toNat ≤ 16 := by
  obtain ⟨started, hstarted, -, -, htall, -, -, -, hdepth⟩ :=
    no_panic_but_tall_sprites (.ofSeed 0) [.execute (.draw 0 0 16), .execute .ret, .press 99]
  refine ⟨started, hstarted, htall 1 2 16 (by decide), hdepth fun n => ?_⟩
  simp

end Checked

end Chip8
