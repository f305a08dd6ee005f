import Chip8.Memory
import Mathlib.Data.Nat.Notation

/-!
# Blocks of memory

A block that is written from an address on occupies the following cells, going on at the start of
memory after its end. What a read finds then depends on how far its cell lies behind the first one
(`Memory.offset`): the byte of the block at that place, if the block reaches so far, and else what
was there before (`read_writeBlock`). This holds for all blocks that do not overwrite themselves.
Such a block is read back as it was written (`read_writeBlock_add`) and leaves all other cells alone
(`stored_writeBlock`), and writing what was read changes nothing (`writeBlock_readBlock`).

A program fits between `programStart` and the end of memory, so no cell before its start is touched
(`placed_writeBlock`).
-/

namespace Chip8

namespace Memory

/-! ### Cells -/

/-- How far the cell of `c` lies behind that of `a`, counted round the end of memory. -/
def offset (a c : UInt16) : ℕ :=
  (c - a).toNat % 4096

theorem offset_eq (a c : UInt16) : offset a c = (c.toNat + 65536 - a.toNat) % 4096 := by
  have ha := a.toNat_lt
  rw [offset, UInt16.toNat_sub]
  omega

theorem cellOf_eq_iff {a c : UInt16} : cellOf a = cellOf c ↔ offset a c = 0 := by
  have ha := a.toNat_lt
  rw [Fin.ext_iff, offset_eq]
  show a.toNat % 4096 = c.toNat % 4096 ↔ _
  omega

/-- From the next address on, a cell lies one place less behind, and the first cell last of all. -/
theorem offset_add_one (a c : UInt16) :
    offset (a + 1) c = if offset a c = 0 then 4095 else offset a c - 1 := by
  have ha := a.toNat_lt
  have hsucc : (a + 1).toNat = (a.toNat + 1) % 65536 := UInt16.toNat_add a 1
  rw [offset_eq, offset_eq, hsucc]
  split
  · omega
  · omega

/-- The cells of an address and of those after it, also where these wrap at 16 bits. -/
theorem cellOf_add_ofNat (a : UInt16) (k : ℕ) :
    (cellOf (a + UInt16.ofNat k)).val = (a.toNat + k) % 4096 := by
  show (a + UInt16.ofNat k).toNat % 4096 = _
  rw [UInt16.toNat_add, UInt16.toNat_ofNat']
  omega

theorem read_add_ofNat (m : Memory) (a : UInt16) (k : ℕ) :
    m.read (a + UInt16.ofNat k) = m.cells[(a.toNat + k) % 4096] := by
  simp only [read, Fin.getElem_fin, cellOf_add_ofNat]

theorem offset_add_ofNat (a : UInt16) {k : ℕ} (hk : k < 4096) :
    offset a (a + UInt16.ofNat k) = k := by
  have hword : (UInt16.ofNat k).toNat = k := UInt16.toNat_ofNat_of_lt' (Nat.lt_trans hk (by decide))
  rw [offset, UInt16.add_comm, UInt16.add_sub_cancel, hword, Nat.mod_eq_of_lt hk]

/-- Every cell is the one that lies as far behind the first as it does. -/
theorem cellOf_add_offset (a c : UInt16) : cellOf (a + UInt16.ofNat (offset a c)) = cellOf c := by
  have ha := a.toNat_lt
  rw [Fin.ext_iff, cellOf_add_ofNat, offset_eq]
  show _ = c.toNat % 4096
  omega

theorem cellOf_ofNat (c : Fin 4096) : cellOf (UInt16.ofNat c) = c := by
  have hc := c.isLt
  rw [Fin.ext_iff]
  show (UInt16.ofNat c).toNat % 4096 = c
  rw [UInt16.toNat_ofNat']
  omega

theorem read_ofNat (m : Memory) (c : Fin 4096) : m.read (UInt16.ofNat c) = m.cells[c] :=
  congrArg (fun cell : Fin 4096 => m.cells[cell]) (cellOf_ofNat c)

/-- Memory is known by what is read from it. -/
theorem ext_read {m m' : Memory} (h : ∀ a, m.read a = m'.read a) : m = m' := by
  obtain ⟨cells⟩ := m
  obtain ⟨cells'⟩ := m'
  refine congrArg Memory.mk (Vector.ext fun c hc => ?_)
  have hread := h (UInt16.ofNat c)
  rwa [read_ofNat _ ⟨c, hc⟩, read_ofNat _ ⟨c, hc⟩] at hread

/-! ### Blocks -/

theorem readBlock_succ (m : Memory) (a : UInt16) (n : ℕ) :
    m.readBlock a (n + 1) = m.readBlock a n ++ [m.read (a + UInt16.ofNat n)] := by
  rw [readBlock, List.range_succ, List.map_append]
  rfl

theorem length_readBlock (m : Memory) (a : UInt16) (n : ℕ) : (m.readBlock a n).length = n := by
  rw [readBlock, List.length_map, List.length_range]

theorem getElem_readBlock (m : Memory) (a : UInt16) {n k : ℕ} (hk : k < (m.readBlock a n).length) :
    (m.readBlock a n)[k] = m.read (a + UInt16.ofNat k) := by
  simp only [readBlock, List.getElem_map, List.getElem_range]

/-- A block that is one byte longer is written like the shorter one and then the byte. -/
theorem writeBlock_append (m : Memory) (a : UInt16) (bytes : List UInt8) (b : UInt8) :
    m.writeBlock a (bytes ++ [b])
      = (m.writeBlock a bytes).write (a + UInt16.ofNat bytes.length) b := by
  induction bytes generalizing m a with
  | nil => exact congrArg (m.write · b) (UInt16.add_zero a).symm
  | cons first rest ih =>
    rw [List.cons_append, writeBlock, ih, writeBlock, List.length_cons, UInt16.ofNat_add,
      UInt16.add_assoc, UInt16.add_comm 1]
    rfl

/-- Reading after a block was written: the byte of the block that was written there, or what was
there before if the block does not reach so far. -/
theorem read_writeBlock (m : Memory) (a c : UInt16) {bytes : List UInt8}
    (h : bytes.length ≤ 4096) :
    (m.writeBlock a bytes).read c = bytes[offset a c]?.getD (m.read c) := by
  induction bytes generalizing m a with
  | nil => rfl
  | cons b rest ih =>
    have hrest : rest.length < 4096 := h
    rw [writeBlock, ih _ _ (Nat.le_of_lt hrest), offset_add_one, read_write]
    by_cases hfirst : offset a c = 0
    · -- the first byte is not overwritten by the rest
      rw [if_pos hfirst, if_pos (cellOf_eq_iff.2 hfirst), hfirst,
        List.getElem?_eq_none (Nat.le_of_lt_succ hrest)]
      rfl
    · obtain ⟨k, hk⟩ := Nat.exists_eq_succ_of_ne_zero hfirst
      rw [if_neg hfirst, if_neg (mt cellOf_eq_iff.1 hfirst), hk, Nat.succ_sub_one,
        List.getElem?_cons_succ]

/-- A byte of a block that was written is read back, wherever the block wraps around. -/
theorem read_writeBlock_add (m : Memory) (a : UInt16) {bytes : List UInt8}
    (h : bytes.length ≤ 4096) {k : ℕ} (hk : k < bytes.length) :
    (m.writeBlock a bytes).read (a + UInt16.ofNat k) = bytes[k] := by
  rw [read_writeBlock m _ _ h, offset_add_ofNat a (Nat.lt_of_lt_of_le hk h),
    List.getElem?_eq_getElem hk, Option.getD_some]

/-- An address whose cell a block does not reach keeps its byte. -/
theorem read_writeBlock_of_not_reached (m : Memory) (a : UInt16) {bytes : List UInt8}
    (h : bytes.length ≤ 4096) {c : UInt16}
    (hc : ∀ k < bytes.length, (a.toNat + k) % 4096 ≠ c.toNat % 4096) :
    (m.writeBlock a bytes).read c = m.read c := by
  have hcell : (a.toNat + offset a c) % 4096 = c.toNat % 4096 := by
    rw [← cellOf_add_ofNat, cellOf_add_offset]
    rfl
  have hbehind : bytes.length ≤ offset a c := Nat.le_of_not_lt fun hlt => hc _ hlt hcell
  rw [read_writeBlock m _ _ h, List.getElem?_eq_none hbehind, Option.getD_none]

/-- What was read may be written back. -/
theorem writeBlock_readBlock (m : Memory) (a : UInt16) {n : ℕ} (h : n ≤ 4096) :
    m.writeBlock a (m.readBlock a n) = m := by
  refine ext_read fun c => ?_
  rw [read_writeBlock m _ _ (by rwa [length_readBlock])]
  by_cases hc : offset a c < (m.readBlock a n).length
  · rw [List.getElem?_eq_getElem hc, Option.getD_some, getElem_readBlock]
    exact congrArg (fun cell => m.cells[cell]) (cellOf_add_offset a c)
  · rw [List.getElem?_eq_none (Nat.le_of_not_lt hc), Option.getD_none]

/-- The memory `after` holds the bytes from an address on, going on at the start after its end, and
elsewhere what `before` does. -/
structure Stored (before after : Memory) (a : UInt16) (bytes : List UInt8) : Prop where
  inside : ∀ k (h : k < bytes.length), after.cells[(a.toNat + k) % 4096] = bytes[k]
  outside : ∀ c : Fin 4096, (∀ k < bytes.length, (a.toNat + k) % 4096 ≠ c) →
    after.cells[c] = before.cells[c]

theorem stored_writeBlock (m : Memory) (a : UInt16) {bytes : List UInt8}
    (h : bytes.length ≤ 4096) : Stored m (m.writeBlock a bytes) a bytes where
  inside k hk := by rw [← read_add_ofNat, read_writeBlock_add m a h hk]
  outside c hc := by
    have hcell : (UInt16.ofNat c).toNat % 4096 = c := congrArg Fin.val (cellOf_ofNat c)
    rw [← read_ofNat, ← read_ofNat]
    refine read_writeBlock_of_not_reached m a h fun k hk => ?_
    rw [hcell]
    exact hc k hk

/-! ### Programs -/

/-- The memory `after` holds the program from `programStart` on, and elsewhere what `before` does.
-/
def Placed (program : List UInt8) (before after : Memory) : Prop :=
  ∀ c : Fin 4096, after.cells[c] =
    if h : 512 ≤ c.val ∧ c.val < 512 + program.length then program[c.val - 512]
    else before.cells[c]

theorem placed_writeBlock (m : Memory) {program : List UInt8} (h : program.length ≤ programLimit) :
    Placed program m (m.writeBlock programStart program) := by
  intro c
  have hlimit : program.length ≤ 3584 := h
  have hoffset : offset programStart (UInt16.ofNat c) = (c.val + 3584) % 4096 := by
    rw [offset_eq, UInt16.toNat_ofNat', show programStart.toNat = 512 from rfl]
    omega
  rw [← read_ofNat, ← read_ofNat, read_writeBlock m _ _ (by omega), hoffset]
  split
  · next hinside =>
    rw [show (c.val + 3584) % 4096 = c.val - 512 by omega,
      List.getElem?_eq_getElem (by omega), Option.getD_some]
  · next houtside =>
    rw [List.getElem?_eq_none (by omega), Option.getD_none]

theorem load_of_fits (m : Memory) {program : List UInt8} (h : program.length ≤ programLimit) :
    ∃ after, m.load program = .ok after ∧ Placed program m after := by
  rw [load, if_pos h]
  exact ⟨_, rfl, placed_writeBlock m h⟩

theorem load_of_not_fits (m : Memory) {program : List UInt8} (h : programLimit < program.length) :
    m.load program = .error (.tooLarge program.length programLimit) := by
  rw [load, if_neg (Nat.not_le_of_lt h)]

end Memory

end Chip8
