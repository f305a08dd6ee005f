import Chip8.Proofs.CallStack
import Chip8.Proofs.Machine.Lockstep
import Mathlib.Data.Nat.ModEq

/-!
# Addresses count modulo 4096

The address register, the program counter and the stack slots hold 16 bits, of which memory looks at
the low 12. Nothing else looks at an address: instructions add to it, copy it and replace it, and
4096 divides `2¹⁶`, so a sum that wraps at 16 bits has the low bits that it should have. So machines
whose addresses are congruent modulo 4096 (`Machine.Congruent`) cannot be told apart by what they do
(`lockstep_congruent`), whatever is done to them.

In particular a machine may as well keep no more than 12 bits of an address: cutting off the others
after every operation (`performAllNarrow`) gives what cutting them off in the end does.
-/

namespace Chip8

/-! ### Congruent addresses -/

/-- Adding to congruent addresses gives congruent addresses, also where one of the sums wraps at 16
bits. -/
theorem add_modEq {a b : UInt16} (h : a.toNat ≡ b.toNat [MOD 4096]) (k : UInt16) :
    (a + k).toNat ≡ (b + k).toNat [MOD 4096] := by
  have hdvd : 4096 ∣ 2 ^ 16 := by decide
  rw [UInt16.toNat_add, UInt16.toNat_add]
  show _ % 2 ^ 16 % 4096 = _ % 2 ^ 16 % 4096
  rw [Nat.mod_mod_of_dvd _ hdvd, Nat.mod_mod_of_dvd _ hdvd]
  exact h.add_right k.toNat

/-- The low 12 bits of an address are congruent to it. -/
theorem mod_modEq (a : UInt16) : a.toNat ≡ (a % 4096).toNat [MOD 4096] := by
  rw [UInt16.toNat_mod]
  exact (Nat.mod_modEq a.toNat 4096).symm

theorem mod_eq_mod_of_modEq {a b : UInt16} (h : a.toNat ≡ b.toNat [MOD 4096]) :
    a % 4096 = b % 4096 := by
  apply UInt16.toNat_inj.1
  rw [UInt16.toNat_mod, UInt16.toNat_mod]
  exact h

namespace Memory

variable {a b : UInt16}

theorem cellOf_congr (h : a.toNat ≡ b.toNat [MOD 4096]) : cellOf a = cellOf b :=
  Fin.ext h

theorem read_congr (m : Memory) (h : a.toNat ≡ b.toNat [MOD 4096]) : m.read a = m.read b :=
  congrArg (fun cell => m.cells[cell]) (cellOf_congr h)

theorem write_congr (m : Memory) (h : a.toNat ≡ b.toNat [MOD 4096]) (c : UInt8) :
    m.write a c = m.write b c :=
  congrArg (fun cell : Fin 4096 => Memory.mk (m.cells.set cell.val c cell.isLt)) (cellOf_congr h)

theorem opcodeAt_congr (m : Memory) (h : a.toNat ≡ b.toNat [MOD 4096]) :
    m.opcodeAt a = m.opcodeAt b := by
  rw [opcodeAt, opcodeAt, read_congr m h, read_congr m (add_modEq h 1)]

theorem readBlock_congr (m : Memory) (h : a.toNat ≡ b.toNat [MOD 4096]) (n : ℕ) :
    m.readBlock a n = m.readBlock b n :=
  List.map_congr_left fun k _ => read_congr m (add_modEq h (UInt16.ofNat k))

theorem writeBlock_congr (m : Memory) (h : a.toNat ≡ b.toNat [MOD 4096]) (bytes : List UInt8) :
    m.writeBlock a bytes = m.writeBlock b bytes := by
  induction bytes generalizing m a b with
  | nil => rfl
  | cons c rest ih =>
    rw [writeBlock, writeBlock, write_congr m h]
    exact ih _ (add_modEq h 1)

end Memory

/-! ### Congruent stacks -/

namespace CallStack

/-- Two stacks of the same depth with congruent addresses in all slots, stale ones included. -/
structure Congruent (s s' : CallStack) : Prop where
  depth : s.depth = s'.depth
  slots (k : ℕ) (hk : k < 16) : s.slots[k].toNat ≡ s'.slots[k].toNat [MOD 4096]

variable {s s' : CallStack}

theorem Congruent.refl (s : CallStack) : Congruent s s :=
  ⟨rfl, fun _ _ => rfl⟩

/-- Calls from congruent sites are refused on both stacks or on neither. -/
theorem Congruent.push? (h : Congruent s s') {a a' : UInt16}
    (ha : a.toNat ≡ a'.toNat [MOD 4096]) :
    Option.Rel Congruent (s.push? a) (s'.push? a') := by
  by_cases hd : s.depth.toNat < 16
  · have hd' : s'.depth.toNat < 16 := h.depth ▸ hd
    rw [push?_eq_some_iff.2 ⟨hd, rfl⟩, push?_eq_some_iff.2 ⟨hd', rfl⟩]
    refine .some ⟨congrArg (· + 1) h.depth, fun k hk => ?_⟩
    simp only [Vector.getElem_set, h.depth]
    split
    · exact ha
    · exact h.slots k hk
  · have hd' : 16 ≤ s'.depth.toNat := h.depth ▸ Nat.not_lt.1 hd
    rw [push?_eq_none_iff.2 (Nat.not_lt.1 hd), push?_eq_none_iff.2 hd']
    exact .none

/-- Returns are refused on both stacks or on neither, and lead back to congruent sites. -/
theorem Congruent.pop? (h : Congruent s s') :
    Option.Rel (fun p p' => p.1.toNat ≡ p'.1.toNat [MOD 4096] ∧ Congruent p.2 p'.2)
      s.pop? s'.pop? := by
  by_cases hd : s.depth.toNat = 0 ∨ 16 < s.depth.toNat
  · rw [pop?_eq_none_iff.2 hd, pop?_eq_none_iff.2 (h.depth ▸ hd)]
    exact .none
  · have hne : s.depth ≠ 0 := by
      rintro h0
      exact hd (.inl (by rw [h0]; rfl))
    have hlt : s.depth.toNat - 1 < 16 := by omega
    have hpop : s.pop? = some (s.slots[s.depth.toNat - 1], ⟨s.slots, s.depth - 1⟩) :=
      pop?_eq_some_iff.2 ⟨hne, Vector.getElem?_eq_getElem hlt, rfl⟩
    have hpop' : s'.pop? = some (s'.slots[s.depth.toNat - 1], ⟨s'.slots, s.depth - 1⟩) := by
      refine pop?_eq_some_iff.2 ⟨h.depth ▸ hne, ?_, by rw [h.depth]⟩
      rw [← h.depth]
      exact Vector.getElem?_eq_getElem hlt
    rw [hpop, hpop']
    exact .some ⟨h.slots _ hlt, rfl, h.slots⟩

end CallStack

/-! ### Congruent machines -/

/-- Two faults of the same kind, at congruent addresses. -/
inductive Fault.Congruent : Fault → Fault → Prop
  | unknownOpcode (opcode : UInt16) {pc pc' : UInt16} (h : pc.toNat ≡ pc'.toNat [MOD 4096]) :
    Congruent (.unknownOpcode opcode pc) (.unknownOpcode opcode pc')
  | stackOverflow {pc pc' : UInt16} (h : pc.toNat ≡ pc'.toNat [MOD 4096]) :
    Congruent (.stackOverflow pc) (.stackOverflow pc')
  | stackUnderflow {pc pc' : UInt16} (h : pc.toNat ≡ pc'.toNat [MOD 4096]) :
    Congruent (.stackUnderflow pc) (.stackUnderflow pc')
  | spriteTooTall (height : UInt8) : Congruent (.spriteTooTall height) (.spriteTooTall height)

namespace Machine

/-- Two machines whose addresses are congruent modulo 4096 and that agree in everything else. -/
structure Congruent (m m' : Machine) : Prop where
  memory : m.memory = m'.memory
  v : m.v = m'.v
  i : m.i.toNat ≡ m'.i.toNat [MOD 4096]
  pc : m.pc.toNat ≡ m'.pc.toNat [MOD 4096]
  calls : m.calls.Congruent m'.calls
  timers : m.timers = m'.timers
  display : m.display = m'.display
  keypad : m.keypad = m'.keypad
  needDraw : m.needDraw = m'.needDraw
  waitingForKey : m.waitingForKey = m'.waitingForKey
  random : m.random = m'.random

variable {m m' : Machine}

theorem Congruent.refl (m : Machine) : m.Congruent m :=
  ⟨rfl, rfl, rfl, rfl, .refl _, rfl, rfl, rfl, rfl, rfl, rfl⟩

/-- A machine congruent to another one is that machine with other addresses. -/
theorem Congruent.exists_eq (h : m.Congruent m') :
    ∃ i pc calls, m' = { m with i, pc, calls } ∧ m.i.toNat ≡ i.toNat [MOD 4096] ∧
      m.pc.toNat ≡ pc.toNat [MOD 4096] ∧ m.calls.Congruent calls := by
  obtain ⟨memory, v, i, pc, calls, timers, display, keypad, needDraw, waitingForKey, random⟩ := m'
  obtain ⟨rfl, rfl, hi, hpc, hcalls, rfl, rfl, rfl, rfl, rfl, rfl⟩ := h
  exact ⟨i, pc, calls, rfl, hi, hpc, hcalls⟩

theorem Congruent.next (h : m.Congruent m') : m.next.Congruent m'.next :=
  { h with pc := add_modEq h.pc 2 }

theorem Congruent.skipIf (h : m.Congruent m') (condition : Bool) :
    (m.skipIf condition).Congruent (m'.skipIf condition) := by
  refine { h with pc := ?_ }
  cases condition with
  | true => exact add_modEq h.pc 4
  | false => exact add_modEq h.pc 2

theorem Congruent.jump (h : m.Congruent m') {a a' : UInt16}
    (ha : a.toNat ≡ a'.toNat [MOD 4096]) : (m.jump a).Congruent (m'.jump a') :=
  { h with pc := ha }

/-- An instruction does congruent things to congruent machines, or is stopped on both. -/
theorem congruent_execute (h : m.Congruent m') (i : Instruction) :
    AttemptsAlike Fault.Congruent Congruent (m.execute i) (m'.execute i) := by
  obtain ⟨i', pc', calls', rfl, hi, hpc, hcalls⟩ := h.exists_eq
  cases i with
  | ret =>
    have hpop := hcalls.pop?
    simp only [execute]
    generalize m.calls.pop? = x at hpop ⊢
    generalize calls'.pop? = x' at hpop ⊢
    cases hpop with
    | none => exact .error (.stackUnderflow hpc)
    | some hp => exact .ok { h with pc := add_modEq hp.1 2, calls := hp.2 }
  | call a =>
    have hpush := hcalls.push? hpc
    simp only [execute]
    generalize m.calls.push? m.pc = x at hpush ⊢
    generalize calls'.push? pc' = x' at hpush ⊢
    cases hpush with
    | none => exact .error (.stackOverflow hpc)
    | some hp => exact .ok { h with pc := rfl, calls := hp }
  | jump a => exact .ok (h.jump rfl)
  | jumpOffset a => exact .ok (h.jump rfl)
  | skipIfEqual | skipIfNotEqual | skipIfSame | skipIfDifferent | skipIfPressed | skipIfReleased =>
    exact .ok (h.skipIf _)
  | point a => exact .ok (Congruent.next { h with i := rfl })
  | pointToGlyph x => exact .ok (Congruent.next { h with i := rfl })
  | advance x => exact .ok (Congruent.next { h with i := add_modEq hi _ })
  -- the instructions that use memory at the address register
  | draw x y n =>
    have hsprite : m.memory.readBlock m.i n.toNat = m.memory.readBlock i' n.toNat :=
      Memory.readBlock_congr m.memory hi n.toNat
    simp only [execute]
    split
    · refine .ok (Congruent.next ?_)
      simp only [drawSprite, sprite, hsprite]
      exact { h with v := rfl, display := rfl, needDraw := rfl }
    · exact .error (.spriteTooTall n)
  | storeDecimal x =>
    refine .ok (Congruent.next { h with memory := ?_ })
    exact Memory.writeBlock_congr m.memory hi _
  | dump x =>
    refine .ok (Congruent.next { h with memory := ?_ })
    exact Memory.writeBlock_congr m.memory hi _
  | restore x =>
    refine .ok (Congruent.next { h with v := ?_ })
    exact congrArg (m.v.setFrom 0) (Memory.readBlock_congr m.memory hi _)
  | waitForKey x =>
    simp only [execute, awaitKey]
    cases m.keypad.firstPressed? with
    | some key => exact .ok (Congruent.next { h with v := rfl, waitingForKey := rfl })
    | none => exact .ok { h with waitingForKey := rfl }
  -- the others touch no address but the program counter
  | _ => exact .ok (Congruent.next ⟨rfl, rfl, hi, hpc, hcalls, rfl, rfl, rfl, rfl, rfl, rfl⟩)

/-- Congruent machines stay congruent and fail alike. -/
theorem lockstep_congruent : Lockstep (fun _ => True) Fault.Congruent Congruent where
  memory h := h.memory
  opcode h := by
    rw [opcode, opcode, h.memory]
    exact Memory.opcodeAt_congr _ h.pc
  unknownOpcode h w := .unknownOpcode w h.pc
  execute h i := congruent_execute h i
  tick h := { h with timers := congrArg Timers.tick h.timers }
  setMemory h _ := { h with memory := rfl }
  quiet := by
    intro m m' h op _ hquiet
    obtain ⟨i', pc', calls', rfl, hi, hpc, hcalls⟩ := h.exists_eq
    cases op with
    | step | cycle | execute i | executeAll is | load program | loadFile path contents =>
      cases hquiet
    | reset => exact .refl _
    | setIndex a => exact ⟨rfl, rfl, rfl, hpc, hcalls, rfl, rfl, rfl, rfl, rfl, rfl⟩
    | setCounter a => exact ⟨rfl, rfl, hi, rfl, hcalls, rfl, rfl, rfl, rfl, rfl, rfl⟩
    | setDepth n =>
      exact ⟨rfl, rfl, hi, hpc, ⟨rfl, hcalls.slots⟩, rfl, rfl, rfl, rfl, rfl, rfl⟩
    | _ => exact ⟨rfl, rfl, hi, hpc, hcalls, rfl, rfl, rfl, rfl, rfl, rfl⟩

/-! ### A machine of 12 bits -/

/-- The machine with no more than the low 12 bits of its addresses. -/
def narrow (m : Machine) : Machine :=
  { m with
    i := m.i % 4096
    pc := m.pc % 4096
    calls := { m.calls with slots := m.calls.slots.map (· % 4096) } }

/-- Performs operations one after the other on a machine that has no more than 12 bits for an
address, so that the others are lost each time. -/
def performAllNarrow (m : Machine) (ops : List Operation) : Machine :=
  ops.foldl (fun m op => (m.perform op).machine.narrow) m.narrow

theorem congruent_narrow (m : Machine) : m.Congruent m.narrow := by
  refine ⟨rfl, rfl, mod_modEq _, mod_modEq _, ⟨rfl, fun k hk => ?_⟩, rfl, rfl, rfl, rfl, rfl, rfl⟩
  simp only [narrow, Vector.getElem_map]
  exact mod_modEq _

/-- Congruent machines are the same machine as far as 12 bits go. -/
theorem narrow_congr (h : m.Congruent m') : m.narrow = m'.narrow := by
  obtain ⟨i', pc', calls', rfl, hi, hpc, hcalls⟩ := h.exists_eq
  have hslots : m.calls.slots.map (· % 4096) = calls'.slots.map (· % 4096) := by
    apply Vector.ext
    intro k hk
    rw [Vector.getElem_map, Vector.getElem_map]
    exact mod_eq_mod_of_modEq (hcalls.slots k hk)
  rw [narrow, narrow]
  simp only [mod_eq_mod_of_modEq hi, mod_eq_mod_of_modEq hpc, hslots, hcalls.depth]

/-- It makes no difference whether the high bits are lost after every operation or in the end. -/
theorem performAllNarrow_eq (m : Machine) (ops : List Operation) :
    m.performAllNarrow ops = (m.performAll ops).narrow := by
  induction ops generalizing m with
  | nil => rfl
  | cons op rest ih =>
    have hone : (m.perform op).machine.narrow = (m.narrow.perform op).machine.narrow :=
      narrow_congr (lockstep_congruent.perform (congruent_narrow m) trivial).machine
    show rest.foldl _ (m.narrow.perform op).machine.narrow = _
    rw [← hone]
    exact ih _

/-- Machines whose addresses are congruent modulo 4096 stay so through every history and fail alike
at every point of it, and the history is that of a machine of 12 bits. -/
theorem bisimilar_of_congruent (h : m.Congruent m') (ops : List Operation) :
    (m.performAll ops).Congruent (m'.performAll ops) ∧
      (∀ op, Option.Rel (Error.Alike Fault.Congruent) ((m.performAll ops).perform op).error?
        ((m'.performAll ops).perform op).error?) ∧
      (m.performAll ops).narrow = m.performAllNarrow ops := by
  have hrun : (m.performAll ops).Congruent (m'.performAll ops) :=
    lockstep_congruent.performAll h fun _ _ => trivial
  refine ⟨hrun, fun op => ?_, (performAllNarrow_eq m ops).symm⟩
  exact (lockstep_congruent.perform hrun trivial).error?

/-- A dump of registers across the end of memory, by an instruction that lies across it too: once
where the 16-bit sums wrap as well, and once where they do not. -/
theorem bisimilar_of_congruent_across_end :
    let m := { initial (.ofSeed 0) with pc := 0xFFFF, i := 0xFFFE }
    let m' := { initial (.ofSeed 0) with pc := 0x0FFF, i := 0x1FFE }
    let ops : List Operation := [.poke 0x0FFF 0xF3, .poke 0 0x55, .step]
    m.Congruent m' ∧ (m.performAll ops).pc = 0x0001 ∧ (m'.performAll ops).pc = 0x1001 ∧
      (m.performAll ops).Congruent (m'.performAll ops) := by
  intro m m' ops
  have hi : (0xFFFE : UInt16).toNat ≡ (0x1FFE : UInt16).toNat [MOD 4096] := by decide
  have hpc : (0xFFFF : UInt16).toNat ≡ (0x0FFF : UInt16).toNat [MOD 4096] := by decide
  have h : m.Congruent m' := ⟨rfl, rfl, hi, hpc, .refl _, rfl, rfl, rfl, rfl, rfl, rfl⟩
  refine ⟨h, ?_, ?_, (bisimilar_of_congruent h ops).1⟩
  · unfold ops m
    decide +kernel
  · unfold ops m'
    decide +kernel

end Machine

end Chip8
