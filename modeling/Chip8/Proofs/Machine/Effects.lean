import Chip8.Proofs.Machine.Executions
import Chip8.Proofs.Machine.RegisterBlock

/-!
# The effect of an instruction on each part of the machine

Each part of the machine is changed by a few instructions and left alone by all others.
`Machine.Effect` says part by part what an executed instruction has done or left alone, and
`effect_of_execute` that this holds of every instruction on every machine.

A history that does nothing but execute inherits two of these facts. No instruction takes back the
note that the display has been touched, so a display without such a note at the end is untouched
(`display_performAll`). And memory stays as it is until something is stored (`memory_performAll`).
-/

namespace Chip8

namespace Instruction

/-- Whether an instruction goes on at an address of its own or at one from the stack. -/
def jumps : Instruction → Bool
  | ret | jump _ | call _ | jumpOffset _ => true
  | _ => false

/-- The registers that an instruction may set. -/
def Sets (r : UInt8) : Instruction → Prop
  | set x _ | increase x _ | copy x _ | bitOr x _ | bitAnd x _ | bitXor x _ | random x _
  | readDelay x | waitForKey x => r.toNat % 16 = x.toNat % 16
  | add x _ | subtract x _ | subtractFrom x _ | shiftRight x | shiftLeft x =>
    r.toNat % 16 = x.toNat % 16 ∨ r.toNat % 16 = 15
  | draw .. => r.toNat % 16 = 15
  | restore x => r.toNat % 16 ≤ x.toNat % 16
  | _ => False

end Instruction

namespace Machine

/-- Whether an instruction skips the one that follows it. -/
def skips (m : Machine) : Instruction → Bool
  | .skipIfEqual x n => m.v.get x == n
  | .skipIfNotEqual x n => m.v.get x != n
  | .skipIfSame x y => m.v.get x == m.v.get y
  | .skipIfDifferent x y => m.v.get x != m.v.get y
  | .skipIfPressed x => m.keypad.isPressed (m.v.get x)
  | .skipIfReleased x => !m.keypad.isPressed (m.v.get x)
  | _ => false

/-- Whether an instruction is to be executed once more, because it waits and no key is down. -/
def Stays (m : Machine) (i : Instruction) : Prop :=
  (∃ x, i = .waitForKey x) ∧ ∀ key, m.keypad.isPressed key = false

/-- What an executed instruction did to each part of the machine. -/
structure Effect (m : Machine) (i : Instruction) (m' : Machine) : Prop
    extends Footprint m i m', Confined m i m' where
  /-- One of the instructions that store something writes three digits. -/
  digits : ∀ x, i = .storeDecimal x → ∃ h t o : UInt8, h.toNat ≤ 9 ∧ t.toNat ≤ 9 ∧ o.toNat ≤ 9 ∧
    100 * h.toNat + 10 * t.toNat + o.toNat = (m.v.get x).toNat ∧
    Memory.Stored m.memory m'.memory m.i [h, t, o]
  /-- The other one writes the registers up to `vx`. -/
  dumped : ∀ x, i = .dump x → Memory.Stored m.memory m'.memory m.i (m.v.upTo x)
  /-- A call goes into the slot at the depth. -/
  opened : ∀ a, i = .call a → ∃ h : m.calls.depth.toNat < 16,
    m'.calls = ⟨m.calls.slots.set m.calls.depth.toNat m.pc h, m.calls.depth + 1⟩
  /-- A return leaves the slots alone. -/
  closed : i = .ret → m.calls.depth ≠ 0 ∧ m'.calls = ⟨m.calls.slots, m.calls.depth - 1⟩
  /-- A register keeps its value unless the instruction sets it. -/
  registers : ∀ r, ¬i.Sets r → m'.v.get r = m.v.get r
  waitingForKey : (∀ x, i ≠ .waitForKey x) → m'.waitingForKey = m.waitingForKey
  /-- An instruction that waits is executed again. -/
  stayed : m.Stays i → m'.pc = m.pc
  /-- Any other one is followed by the next but for those that jump or skip. -/
  wentOn : i.jumps = false → ¬m.Stays i → m'.pc = if m.skips i then m.pc + 4 else m.pc + 2

variable {m m' : Machine} {i : Instruction}

/-! ### Part by part -/

theorem registers_of_execute (h : m.execute i = .ok m') {r : UInt8} (hr : ¬i.Sets r) :
    m'.v.get r = m.v.get r := by
  cases i with
  | set x n | increase x n | copy x y | bitOr x y | bitAnd x y | bitXor x y | random x n
  | readDelay x =>
    cases h
    exact Registers.get_set_of_ne m.v (Ne.symm hr) _
  | add x y | subtract x y | subtractFrom x y | shiftRight x | shiftLeft x =>
    cases h
    obtain ⟨hx, hflag⟩ := not_or.1 hr
    refine (Registers.get_setFlag_set ..).trans ?_
    rw [if_neg hflag, if_neg hx]
  | draw x y n =>
    simp only [execute] at h
    split at h
    · cases h
      have hflag : r.toNat % 16 ≠ Registers.flag.toNat % 16 := hr
      exact Registers.get_set_of_ne m.v hflag.symm _
    · cases h
  | waitForKey x =>
    cases h
    unfold awaitKey
    split
    · exact Registers.get_set_of_ne m.v (Ne.symm hr) _
    · rfl
  | restore x =>
    cases h
    exact (m.get_restoredRegisters x r).trans (if_neg hr)
  | ret | call a =>
    simp only [execute] at h
    split at h
    · cases h
      rfl
    · cases h
  | _ =>
    cases h
    rfl

theorem exists_decimalDigitsOf (b : UInt8) : ∃ h t o : UInt8, decimalDigitsOf b = [h, t, o] ∧
    h.toNat ≤ 9 ∧ t.toNat ≤ 9 ∧ o.toNat ≤ 9 ∧
      100 * h.toNat + 10 * t.toNat + o.toNat = b.toNat := by
  have hb := b.toNat_lt
  have hhundreds : (b / 100).toNat = b.toNat / 100 := UInt8.toNat_div b 100
  have htens : (b / 10 % 10).toNat = b.toNat / 10 % 10 := by
    rw [UInt8.toNat_mod, UInt8.toNat_div]
    rfl
  have hones : (b % 10).toNat = b.toNat % 10 := UInt8.toNat_mod b 10
  refine ⟨_, _, _, rfl, ?_⟩
  omega

theorem pc_of_execute_of_stays (hi : m.Stays i) (h : m.execute i = .ok m') : m'.pc = m.pc := by
  obtain ⟨⟨x, rfl⟩, hnone⟩ := hi
  cases h
  simp only [awaitKey, Keypad.firstPressed?_eq_none_iff.2 hnone]

theorem pc_of_execute_of_not_stays (hjumps : i.jumps = false) (hi : ¬m.Stays i)
    (h : m.execute i = .ok m') : m'.pc = if m.skips i then m.pc + 4 else m.pc + 2 := by
  cases i with
  | ret | jump a | call a | jumpOffset a => cases hjumps
  | draw x y n =>
    simp only [execute] at h
    split at h
    · cases h
      rfl
    · cases h
  | waitForKey x =>
    cases h
    cases hfirst : m.keypad.firstPressed? with
    | none => exact absurd ⟨⟨x, rfl⟩, Keypad.firstPressed?_eq_none_iff.1 hfirst⟩ hi
    | some key =>
      simp only [awaitKey, hfirst]
      rfl
  | _ =>
    cases h
    rfl

theorem effect_of_execute (h : m.execute i = .ok m') : Effect m i m' where
  toFootprint := footprint_of_execute h
  toConfined := confined_of_execute h
  digits := by
    rintro x rfl
    obtain ⟨hundreds, tens, ones, hdigits, hh, ht, ho, hsum⟩ := exists_decimalDigitsOf (m.v.get x)
    refine ⟨hundreds, tens, ones, hh, ht, ho, hsum, ?_⟩
    cases h
    rw [← hdigits]
    exact Memory.stored_writeBlock _ _ (by decide : 3 ≤ 4096)
  dumped := by
    rintro x rfl
    cases h
    exact Memory.stored_writeBlock _ _ (m.length_upTo_le x)
  opened := by
    rintro a rfl
    exact CallStack.push?_eq_some_iff.1 (calls_of_execute_call h)
  closed := by
    rintro rfl
    obtain ⟨site, hpop, -⟩ := calls_of_execute_ret h
    obtain ⟨hdepth, -, hcalls⟩ := CallStack.pop?_eq_some_iff.1 hpop
    exact ⟨hdepth, hcalls⟩
  registers r hr := registers_of_execute h hr
  waitingForKey hi := waitingForKey_of_execute hi h
  stayed hi := pc_of_execute_of_stays hi h
  wentOn hjumps hi := pc_of_execute_of_not_stays hjumps hi h

/-! ### Histories -/

/-- An execution that leaves no note of a touched display has found none and did not touch it. -/
theorem display_of_needDraw_eq_false (e : Execution) (h : e.after.needDraw = false) :
    (e.before.needDraw, e.before.display) = (e.after.needDraw, e.after.display) := by
  have hfoot := footprint_of_execute e.executed
  rw [hfoot.needDraw, Bool.or_eq_false_iff] at h
  rw [hfoot.needDraw, hfoot.display h.2, h.1, h.2]
  rfl

/-- If there is no note of a touched display after a history that only executes, the display has not
been touched. -/
theorem display_performAll (m : Machine) {ops : List Operation} (hops : ∀ op ∈ ops, op.executes)
    (h : (m.performAll ops).needDraw = false) : (m.performAll ops).display = m.display := by
  have hleads := leads_performAll_of_executes (fun m => (m.needDraw, m.display)) (fun _ => rfl) m
    hops
  -- no execution removes a note, so if there is none at the end there was none before
  have hsame := hleads.rel (R := fun before after => after.1 = false → before = after)
    (fun _ _ => rfl)
    (fun a b c hab hbc hc => by
      have hb : b = c := hbc hc
      exact (hab (hb ▸ hc)).trans hb)
    fun e _ => display_of_needDraw_eq_false e
  exact (congrArg Prod.snd (hsame h)).symm

/-- A history that only executes, and nothing that stores, leaves memory as it was. -/
theorem memory_performAll (m : Machine) {ops : List Operation} (hops : ∀ op ∈ ops, op.executes)
    (h : ∀ e ∈ m.executionsAll ops, e.instruction.stores = false) :
    (m.performAll ops).memory = m.memory := by
  have hleads := leads_performAll_of_executes memory (fun _ => rfl) m hops
  have hsame := hleads.rel (R := Eq) (fun _ => rfl) (fun _ _ _ => Eq.trans)
    fun e he => ((effect_of_execute e.executed).memory (h e he)).symm
  exact hsame.symm

/-- An instruction that is executed has its effect on each part of the machine and no other. So
through every history of steps, cycles and other executions from when the display was shown, it is
still the one that was shown unless it has been noted as touched, and memory is as it was unless one
of the two instructions that store something has been executed. -/
theorem instructions_keep_to_their_effects (m : Machine) :
    (∀ i m', m.execute i = .ok m' → Effect m i m') ∧
    ∀ ops : List Operation, (∀ op ∈ ops, op.executes) →
      let now := m.markDrawn.performAll ops
      (now.needDraw = false → now.display = m.display) ∧
      ((∀ e ∈ m.markDrawn.executionsAll ops, e.instruction.stores = false) →
        now.memory = m.memory) := by
  refine ⟨fun i m' h => effect_of_execute h, fun ops hops => ?_⟩
  exact ⟨display_performAll m.markDrawn hops, memory_performAll m.markDrawn hops⟩

/-- The digits of 254 go to the last byte of memory and the first two. A step and a cycle in an
endless loop touch neither the display nor memory. -/
theorem instructions_keep_to_their_effects_of_wrapped :
    let m : Machine := { initial (.ofSeed 0) with
      memory := Memory.initial.write 0x200 0x12
      i := 0x1FFF
      v := Registers.zeros.set 3 254 }
    (∃ m', m.execute (.storeDecimal 3) = .ok m' ∧ m'.display = m.display ∧ m'.pc = 0x202 ∧
      100 * m'.memory.cells[4095].toNat + 10 * m'.memory.cells[0].toNat
        + m'.memory.cells[1].toNat = 254 ∧ m'.memory.cells[2] = m.memory.cells[2]) ∧
    (m.markDrawn.performAll [.step, .cycle]).display = m.display ∧
    (m.markDrawn.performAll [.step, .cycle]).memory = m.memory := by
  intro m
  obtain ⟨heffect, hrun⟩ := instructions_keep_to_their_effects m
  obtain ⟨m', hm'⟩ : ∃ m', m.execute (.storeDecimal 3) = .ok m' := ⟨_, rfl⟩
  have hstore := heffect (.storeDecimal 3) m' hm'
  refine ⟨⟨m', hm', hstore.display rfl, ?_, ?_, ?_⟩, ?_⟩
  · refine hstore.wentOn rfl ?_
    rintro ⟨⟨x, hx⟩, -⟩
    cases hx
  · obtain ⟨h, t, o, -, -, -, hsum, hstored⟩ := hstore.digits 3 rfl
    have hi : m.i.toNat = 8191 := rfl
    have hbytes := hstored.inside
    simp only [hi] at hbytes
    have hhundreds : m'.memory.cells[4095] = h := hbytes 0 (by decide : 0 < 3)
    have htens : m'.memory.cells[0] = t := hbytes 1 (by decide : 1 < 3)
    have hones : m'.memory.cells[1] = o := hbytes 2 (by decide : 2 < 3)
    rw [hhundreds, htens, hones, hsum]
    decide
  · obtain ⟨h, t, o, -, -, -, -, hstored⟩ := hstore.digits 3 rfl
    exact hstored.outside 2 (by decide : ∀ k < 3, (8191 + k) % 4096 ≠ 2)
  · have hops : ∀ op ∈ [Operation.step, .cycle], op.executes := by decide
    obtain ⟨hdisplay, hmemory⟩ := hrun _ hops
    exact ⟨hdisplay (by decide +kernel), hmemory (by decide +kernel)⟩

end Machine

end Chip8
