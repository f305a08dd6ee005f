import Chip8.Machine.Checked
import Chip8.Proofs.Display
import Chip8.Proofs.Memory
import Chip8.Proofs.Registers
import Mathlib.Data.List.Basic

/-!
# The tables of a machine

`Machine.store` lays a machine out in tables. On these the parts of which `Checked` programs consist
do what their counterparts do to the machine, and none of them panics: the indices of registers and
memory are masked, and what is added, subtracted or multiplied is small. Drawing a sprite strikes
its pixels in order (`run_drawSprite`), and the loops over rows and registers read and write blocks
(`run_spriteBuffer`, `run_dump`, `run_restore`).

The one thing that may be out of range is the height of a sprite, which is drawn from a buffer of 15
rows (`first_buffered`, `first_of_lt`).
-/

namespace Chip8

/-- The machine laid out in tables. -/
def Machine.store (m : Machine) : Store where
  memory := m.memory.cells
  v := m.v.values
  i := m.i
  pc := m.pc
  sp := m.calls.depth
  delay := m.timers.delay
  sound := m.timers.sound
  stack := m.calls.slots
  cells := .ofFn fun y => .ofFn fun x => (m.display.lit ⟨x, y⟩).toUInt8
  keys := m.keypad.down.map Bool.toUInt8
  needDraw := m.needDraw
  waitingForKey := m.waitingForKey
  random := m.random

namespace Checked

/-! ### Indices and results in range -/

section

variable {α : Type} {n : ℕ} {table : Vector α n}

theorem entry_fin (c : Fin n) : entry table c.val = pure table[c] :=
  dif_pos c.isLt

theorem replace_fin (c : Fin n) (a : α) :
    replace table c.val a = pure (table.set c.val a c.isLt) :=
  dif_pos c.isLt

theorem first_of_lt {k : ℕ} (h : n < k) :
    first table k = throw (.panic (.outOfRange k n)) :=
  if_neg (Nat.not_le_of_lt h)

theorem fitting_of {fits : Prop} [Decidable fits] (h : fits) (a : α) : fitting fits a = pure a :=
  if_pos h

end

theorem addSizes_of {a b : ℕ} (h : a + b < 65536) : addSizes a b = pure (a + b) :=
  fitting_of h _

theorem toNat_and_slot (x : UInt8) : x.toNat &&& 0xF = (Registers.slotOf x).val :=
  Nat.and_two_pow_sub_one_eq_mod x.toNat 4

theorem toNat_and_cell (a : UInt16) : (a &&& 0xFFF).toNat = (Memory.cellOf a).val := by
  rw [UInt16.toNat_and]
  exact Nat.and_two_pow_sub_one_eq_mod a.toNat 12

/-! ### Parts of instructions -/

section

variable (m : Machine)

@[simp]
theorem run_register (x : UInt8) : (register x).run m.store = .ok (m.v.get x) m.store := by
  simp only [register, EStateM.run_bind, EStateM.run_get, toNat_and_slot, entry_fin,
    EStateM.run_pure]
  rfl

@[simp]
theorem run_setRegister (x b : UInt8) :
    (setRegister x b).run m.store = .ok () (m.put x b).store := by
  simp only [setRegister, EStateM.run_bind, EStateM.run_get, toNat_and_slot, replace_fin,
    EStateM.run_pure, EStateM.run_modify]
  rfl

@[simp]
theorem run_setFlag (condition : Bool) :
    (setFlag condition).run m.store = .ok () { m with v := m.v.setFlag condition }.store :=
  run_setRegister m Registers.flag condition.toUInt8

@[simp]
theorem run_read (a : UInt16) : (read a).run m.store = .ok (m.memory.read a) m.store := by
  simp only [read, EStateM.run_bind, EStateM.run_get, toNat_and_cell, entry_fin, EStateM.run_pure]
  rfl

@[simp]
theorem run_write (a : UInt16) (b : UInt8) :
    (write a b).run m.store = .ok () { m with memory := m.memory.write a b }.store := by
  simp only [write, EStateM.run_bind, EStateM.run_get, toNat_and_cell, replace_fin,
    EStateM.run_pure, EStateM.run_modify]
  rfl

theorem shiftLeft_or (high low : UInt8) :
    high.toUInt16 <<< 8 ||| low.toUInt16 = (⟨high, low⟩ : Opcode).toWord := by
  apply UInt16.toNat_inj.1
  have hh := high.toNat_lt
  have hl := low.toNat_lt
  have hor : high.toNat <<< 8 ||| low.toNat = high.toNat <<< 8 + low.toNat :=
    (Nat.shiftLeft_add_eq_or_of_lt hl high.toNat).symm
  have hshift : high.toNat <<< 8 = high.toNat * 256 := Nat.shiftLeft_eq high.toNat 8
  simp [Opcode.toWord]
  rw [Nat.mod_eq_of_lt (by omega), hor]
  omega

@[simp]
theorem run_readWord (a : UInt16) :
    (readWord a).run m.store = .ok (m.memory.opcodeAt a).toWord m.store := by
  simp only [readWord, EStateM.run_bind, run_read, EStateM.run_pure, shiftLeft_or]
  rfl

theorem isPressed_store (key : UInt8) : m.store.isPressed key = m.keypad.isPressed key := by
  rw [Store.isPressed, Machine.store, Keypad.isPressed, Vector.getElem?_map]
  cases m.keypad.down[key.toNat]? with
  | none => rfl
  | some down =>
    cases down with
    | false => rfl
    | true => rfl

/-- Bytes that fit are written one after the other. -/
theorem run_fill (start : ℕ) (bytes : List UInt8) (h : start + bytes.length ≤ 4096) :
    (fill start bytes).run m.store
      = .ok () { m with memory := m.memory.writeBlock (UInt16.ofNat start) bytes }.store := by
  induction bytes generalizing m start with
  | nil => rfl
  | cons b rest ih =>
    rw [List.length_cons] at h
    have hstart : start < 4096 := by omega
    have hwrite : replace m.store.memory start b
        = pure (m.memory.write (UInt16.ofNat start) b).cells := by
      have hcell : start = (Memory.cellOf (UInt16.ofNat start)).val :=
        congrArg Fin.val (Memory.cellOf_ofNat ⟨start, hstart⟩).symm
      exact (congrArg (replace _ · b) hcell).trans (replace_fin _ b)
    have hnext : UInt16.ofNat (start + 1) = UInt16.ofNat start + 1 := UInt16.ofNat_add start 1
    rw [fill]
    simp only [EStateM.run_bind, EStateM.run_get, hwrite, EStateM.run_pure, EStateM.run_modify]
    refine (ih { m with memory := m.memory.write (UInt16.ofNat start) b } (start + 1)
      (by omega)).trans ?_
    rw [hnext]
    rfl

theorem run_copy (start : ℕ) (bytes : List UInt8) (h : start + bytes.length ≤ 4096) :
    (copy start bytes).run m.store
      = .ok () { m with memory := m.memory.writeBlock (UInt16.ofNat start) bytes }.store := by
  have hsum : start + bytes.length < 65536 := by omega
  rw [copy, addSizes_of hsum]
  simp only [EStateM.run_bind, EStateM.run_pure, if_neg (Nat.not_lt.2 h)]
  exact run_fill m start bytes h

/-! ### Drawing -/

/-- What drawing some pixels makes of the machine. -/
def struck (collision : Bool) (ps : List Pixel) : EStateM.Result Stop Store Bool :=
  .ok (m.display.strike collision ps).2
    { m with display := (m.display.strike collision ps).1 }.store

theorem shiftRight_and (row : UInt8) {k : ℕ} (hk : k < 8) :
    (row >>> UInt8.ofNat k) &&& 1 = (row.toNat.testBit k).toUInt8 := by
  apply UInt8.toNat_inj.1
  have hword : (UInt8.ofNat k).toNat = k := UInt8.toNat_ofNat_of_lt' (Nat.lt_trans hk (by decide))
  have hbit : ((row.toNat.testBit k).toUInt8).toNat = (row.toNat.testBit k).toNat := by
    cases row.toNat.testBit k with
    | false => rfl
    | true => rfl
  rw [hbit, Nat.toNat_testBit, UInt8.toNat_and, UInt8.toNat_shiftRight, hword, Nat.mod_eq_of_lt hk,
    Nat.shiftRight_eq_div_pow]
  exact Nat.and_one_is_mod _

theorem getElem_cells {x y : ℕ} (hx : x < 64) (hy : y < 32) :
    m.store.cells[y][x] = (m.display.lit ⟨⟨x, hx⟩, ⟨y, hy⟩⟩).toUInt8 := by
  simp only [Machine.store, Vector.getElem_ofFn]

/-- The pixel that is flipped is the one whose entry is replaced. -/
theorem cells_flip (p : Pixel) :
    { m with display := m.display.flip p }.store.cells
      = m.store.cells.set p.row.val
          (m.store.cells[p.row].set p.column.val ((m.display.lit p).toUInt8 ^^^ 1)) := by
  ext y hy x hx
  rw [getElem_cells _ hx hy, Display.lit_flip, Vector.getElem_set]
  by_cases hrow : p.row.val = y
  · subst hrow
    rw [if_pos rfl, Vector.getElem_set]
    by_cases hcolumn : p.column.val = x
    · subst hcolumn
      rw [if_pos rfl, if_pos rfl]
      cases m.display.lit p with
      | false => rfl
      | true => rfl
    · have hp : p ≠ ⟨⟨x, hx⟩, p.row⟩ := fun h => hcolumn (congrArg (·.column.val) h)
      rw [if_neg hp, if_neg hcolumn, Fin.getElem_fin, getElem_cells]
  · have hp : p ≠ ⟨⟨x, hx⟩, ⟨y, hy⟩⟩ := fun h => hrow (congrArg (·.row.val) h)
    rw [if_neg hp, if_neg hrow, getElem_cells]

/-- A bit flips the pixel that it falls on, if it is set. -/
theorem run_drawBit {x bit : ℕ} (y : Fin 32) (row : UInt8) (collision : Bool) (hbit : bit < 8)
    (hx : x + bit < 65536) :
    (drawBit x y.val row collision bit).run m.store
      = struck m collision (if row.toNat.testBit (7 - bit) then
          [⟨⟨(x + bit) % 64, Nat.mod_lt _ (by decide)⟩, y⟩] else []) := by
  have hshift : subtractSizes 7 bit = pure (7 - bit) := fitting_of (Nat.le_of_lt_succ hbit) _
  have hpixel : shiftByte row (7 - bit) = pure (row >>> UInt8.ofNat (7 - bit)) :=
    fitting_of (Nat.lt_succ_of_le (Nat.sub_le 7 bit)) _
  rw [drawBit, hshift, addSizes_of hx]
  simp only [pure_bind, hpixel, shiftRight_and row (Nat.lt_succ_of_le (Nat.sub_le 7 bit))]
  cases hset : row.toNat.testBit (7 - bit) with
  | false => rfl
  | true =>
    let p : Pixel := ⟨⟨(x + bit) % 64, Nat.mod_lt _ (by decide)⟩, y⟩
    have hentry (table : Vector UInt8 64) :
        entry table ((x + bit) % 64) = pure table[p.column] := entry_fin p.column
    have hreplace (table : Vector UInt8 64) (b : UInt8) : replace table ((x + bit) % 64) b
        = pure (table.set p.column.val b p.column.isLt) := replace_fin p.column b
    have hlit : m.store.cells[y][p.column] = (m.display.lit p).toUInt8 := by
      rw [Fin.getElem_fin, Fin.getElem_fin, getElem_cells]
    have hstrike : m.display.strike collision [p]
        = (m.display.flip p, collision || m.display.lit p) := Display.strike_cons ..
    have hon : ((m.display.lit p).toUInt8 == 1) = m.display.lit p := by
      cases m.display.lit p with
      | false => rfl
      | true => rfl
    have hset : (true.toUInt8 = 0) = False := by decide
    rw [if_pos rfl, struck, hstrike]
    simp only [hset, if_false, EStateM.run_bind, EStateM.run_get, entry_fin y, hentry, hreplace,
      replace_fin y, EStateM.run_pure, EStateM.run_modify]
    rw [hlit, hon]
    exact congrArg (fun cells => EStateM.Result.ok (collision || m.display.lit p)
      { m.store with cells }) (cells_flip m p).symm

/-- Pixels that are drawn after others find the display as these leave it. -/
theorem run_bind_struck {u : Checked Bool} {f : Bool → Checked Bool} {collision : Bool}
    {ps qs : List Pixel} (hu : u.run m.store = struck m collision ps)
    (hf : ∀ (m' : Machine) (c : Bool), (f c).run m'.store = struck m' c qs) :
    (u >>= f).run m.store = struck m collision (ps ++ qs) := by
  rw [EStateM.run_bind, hu, struck, struck, Display.strike_append]
  exact hf _ _

/-- Drawing one thing after the other draws the pixels of each in turn. -/
theorem run_foldlM_struck {β : Type} {f : Bool → β → Checked Bool} {pixels : β → List Pixel}
    {items : List β} (hf : ∀ b ∈ items, ∀ (m' : Machine) (c : Bool),
      (f c b).run m'.store = struck m' c (pixels b)) (collision : Bool) :
    (items.foldlM f collision).run m.store = struck m collision (items.flatMap pixels) := by
  induction items generalizing m collision with
  | nil => rfl
  | cons b rest ih =>
    rw [List.foldlM_cons, List.flatMap_cons]
    exact run_bind_struck m (hf b List.mem_cons_self m collision) fun m' c =>
      ih m' (fun b' hb' => hf b' (List.mem_cons_of_mem b hb')) c

/-- A row of a sprite draws its pixels, if its coordinates are small enough. -/
theorem run_drawRow {x y : UInt64} (row : UInt8) {k : ℕ} (hx : x.toNat + 8 < 65536)
    (hy : y.toNat + k < 65536) (collision : Bool) :
    (drawRow x.toNat y.toNat collision (row, k)).run m.store
      = struck m collision (Display.rowHits x y row k) := by
  have hword : ∀ n < 65536, (UInt64.ofNat n).toNat = n := fun n hn =>
    UInt64.toNat_ofNat_of_lt' (Nat.lt_trans hn (by decide))
  -- the pixel that a bit falls on
  let p (bit : ℕ) : Pixel := ⟨⟨(x.toNat + bit) % 64, Nat.mod_lt _ (by decide)⟩,
    ⟨(y.toNat + k) % 32, Nat.mod_lt _ (by decide)⟩⟩
  have hbits : ∀ bit ∈ List.range 8, ∀ (m' : Machine) (c : Bool),
      (drawBit x.toNat ((y.toNat + k) % 32) row c bit).run m'.store
        = struck m' c (if row.toNat.testBit (7 - bit) then [p bit] else []) := by
    intro bit hbit m' c
    have hbit : bit < 8 := List.mem_range.1 hbit
    exact run_drawBit m' ⟨(y.toNat + k) % 32, _⟩ row c hbit (by omega)
  rw [drawRow, addSizes_of hy, pure_bind]
  refine (run_foldlM_struck m hbits collision).trans ?_
  rw [Display.rowHits, List.filterMap_eq_flatMap_toList]
  refine congrArg (struck m collision) (List.flatMap_congr fun bit hbit => ?_)
  have hbit : bit < 8 := List.mem_range.1 hbit
  have hp : Pixel.wrap (x + UInt64.ofNat bit) (y + UInt64.ofNat k) = p bit := by
    simp only [p, Pixel.wrap, Pixel.mk.injEq, Fin.mk.injEq, UInt64.toNat_add,
      hword bit (by omega), hword k (by omega)]
    omega
  rw [hp]
  split
  · rfl
  · rfl

/-- A sprite of at most 15 rows is drawn without a panic, wherever it is. -/
theorem run_drawSprite (x y : UInt8) {sprite : List UInt8} (h : sprite.length ≤ 15) :
    (drawSprite x.toNat y.toNat sprite).run m.store
      = struck m false (Display.hits x.toUInt64 y.toUInt64 sprite) := by
  have hx := x.toNat_lt
  have hy := y.toNat_lt
  refine run_foldlM_struck m (fun e he m' c => ?_) false
  have hrow : e.2 < sprite.length + 0 := List.snd_lt_of_mem_zipIdx he
  have hx' : x.toUInt64.toNat = x.toNat := UInt8.toNat_toUInt64 x
  have hy' : y.toUInt64.toNat = y.toNat := UInt8.toNat_toUInt64 y
  rw [← hx', ← hy']
  exact run_drawRow m' e.1 (by omega) (by omega) c

/-! ### Blocks -/

/-- The buffer after its first `n` rows have been filled. -/
def buffered (n : ℕ) : Vector UInt8 15 :=
  .ofFn fun row => if row.val < n then m.memory.read (m.i + UInt16.ofNat row) else 0

theorem run_fillBuffer {n : ℕ} (h : n ≤ 15) :
    ((List.range n).foldlM
        (fun buffer row => do
          replace buffer row (← read ((← get).i + UInt16.ofNat row)))
        (.replicate 15 0)).run m.store = .ok (buffered m n) m.store := by
  induction n with
  | zero =>
    refine congrArg (EStateM.Result.ok · m.store) (Vector.ext fun row hrow => ?_)
    simp [buffered]
  | succ n ih =>
    rw [List.range_succ, List.foldlM_append, EStateM.run_bind, ih (Nat.le_of_succ_le h)]
    have hrow : replace (buffered m n) n (m.memory.read (m.i + UInt16.ofNat n))
        = pure (buffered m (n + 1)) := by
      refine (replace_fin (⟨n, h⟩ : Fin 15) _).trans (congrArg pure (Vector.ext fun row hrow => ?_))
      simp only [buffered, Vector.getElem_set, Vector.getElem_ofFn]
      by_cases hn : n = row
      · subst hn
        rw [if_pos rfl, if_pos (Nat.lt_succ_self n)]
      · rw [if_neg hn]
        refine ite_congr (propext ⟨Nat.lt_succ_of_lt, fun hlt => ?_⟩) (fun _ => rfl) fun _ => rfl
        exact Nat.lt_of_le_of_ne (Nat.le_of_lt_succ hlt) (Ne.symm hn)
    simp only [List.foldlM_cons, List.foldlM_nil, EStateM.run_bind, EStateM.run_get]
    rw [show m.store.i = m.i from rfl, run_read]
    simp only [hrow, EStateM.run_pure]

theorem run_spriteBuffer (n : ℕ) :
    (spriteBuffer n).run m.store = .ok (buffered m (min n 15)) m.store :=
  run_fillBuffer m (Nat.min_le_right n 15)

/-- What is cut out of the buffer is the sprite. -/
theorem first_buffered {n : UInt8} (h : n.toNat ≤ 15) :
    first (buffered m (min n.toNat 15)) n.toNat = pure (m.sprite n) := by
  rw [Nat.min_eq_left h, first, if_pos h]
  refine congrArg pure (List.ext_getElem ?_ fun k hk hk' => ?_)
  · rw [List.length_take, Vector.length_toList, Nat.min_eq_left h, Machine.sprite,
      Memory.length_readBlock]
  · rw [List.length_take, Vector.length_toList, Nat.min_eq_left h] at hk
    simp [buffered, Machine.sprite, Memory.readBlock, hk]

theorem run_dumpOne {k : ℕ} (h : k < 16) :
    (dumpOne k).run m.store
      = .ok () { m with memory := m.memory.write (m.i + UInt16.ofNat k) m.v.values[k] }.store := by
  have hentry : entry m.store.v k = pure m.v.values[k] := entry_fin (⟨k, h⟩ : Fin 16)
  rw [dumpOne]
  simp only [EStateM.run_bind, EStateM.run_get, hentry, EStateM.run_pure, run_write]
  rfl

theorem run_dump {n : ℕ} (h : n ≤ 16) :
    (forBelow dumpOne n).run m.store
      = .ok () { m with memory := m.memory.writeBlock m.i (m.v.values.toList.take n) }.store := by
  induction n with
  | zero => rfl
  | succ n ih =>
    have hn : n < m.v.values.toList.length := by
      rw [Vector.length_toList]
      exact h
    have htake : m.v.values.toList.take (n + 1)
        = m.v.values.toList.take n ++ [m.v.values[n]] := by
      rw [List.take_add_one, List.getElem?_eq_getElem hn, Vector.getElem_toList]
      rfl
    have hlength : (m.v.values.toList.take n).length = n := by
      rw [List.length_take, Nat.min_eq_left (Nat.le_of_lt hn)]
    rw [forBelow, EStateM.run_bind, ih (Nat.le_of_succ_le h), htake, Memory.writeBlock_append,
      hlength]
    exact run_dumpOne _ h

theorem run_restoreOne {k : ℕ} (h : k < 16) :
    (restoreOne k).run m.store
      = .ok () { m with
        v := m.v.set (UInt8.ofNat k) (m.memory.read (m.i + UInt16.ofNat k)) }.store := by
  have hreplace (b : UInt8) : replace m.store.v k b = pure (m.v.set (UInt8.ofNat k) b).values :=
    (congrArg (replace m.store.v · b) (Registers.slotOf_ofNat h).symm).trans (replace_fin _ b)
  have hread : (read (m.store.i + UInt16.ofNat k)).run m.store
      = .ok (m.memory.read (m.i + UInt16.ofNat k)) m.store := run_read m _
  rw [restoreOne]
  simp only [EStateM.run_bind, EStateM.run_get, hread, hreplace, EStateM.run_pure,
    EStateM.run_modify]
  rfl

theorem run_restore {n : ℕ} (h : n ≤ 16) :
    (forBelow restoreOne n).run m.store
      = .ok () { m with v := m.v.setFrom 0 (m.memory.readBlock m.i n) }.store := by
  induction n with
  | zero => rfl
  | succ n ih =>
    rw [forBelow, EStateM.run_bind, ih (Nat.le_of_succ_le h), Memory.readBlock_succ,
      Registers.setFrom_append, Memory.length_readBlock, UInt8.zero_add]
    exact run_restoreOne _ h

end

/-! ### Keys and pixels -/

theorem length_keys (m : Machine) : m.store.keys.toList.length = 16 :=
  Vector.length_toList

theorem getElem_keys (m : Machine) {k : ℕ} (hk : k < m.store.keys.toList.length) :
    (m.store.keys.toList[k] != 0) = m.keypad.isPressed (UInt8.ofNat k) := by
  have hk16 : k < 16 := length_keys m ▸ hk
  have hword : (UInt8.ofNat k).toNat = k := UInt8.toNat_ofNat_of_lt' (Nat.lt_trans hk16 (by decide))
  rw [← isPressed_store, Store.isPressed, hword, Vector.getElem_toList,
    Vector.getElem?_eq_getElem hk16]
  rfl

theorem firstPressed?_store (m : Machine) : m.store.firstPressed? = m.keypad.firstPressed? := by
  rw [Store.firstPressed?, Keypad.firstPressed?_eq_find?]
  refine congrArg (Option.map UInt8.ofNat) (Option.ext fun k => ?_)
  rw [List.findIdx?_eq_some_iff_getElem, List.find?_range_eq_some, List.mem_range]
  constructor
  · rintro ⟨hk, hdown, hlower⟩
    refine ⟨(getElem_keys m hk).symm.trans hdown, length_keys m ▸ hk, fun j hj => ?_⟩
    have hup := hlower j hj
    rw [getElem_keys m (Nat.lt_trans hj hk), Bool.not_eq_true] at hup
    exact (congrArg _ hup :)
  · rintro ⟨hdown, hk, hlower⟩
    refine ⟨Nat.lt_of_lt_of_eq hk (length_keys m).symm, ?_, fun j hj => ?_⟩
    · rw [getElem_keys]
      exact hdown
    · rw [getElem_keys, Bool.not_eq_true, ← Bool.not_eq_true']
      exact hlower j hj

theorem keys_released : Keypad.released.down.map Bool.toUInt8 = .replicate 16 0 := by
  rw [Keypad.released, Vector.map_replicate]
  rfl

/-- With every key up, the machine is what it is with zeros for the keys. -/
theorem store_released (m : Machine) :
    { m.store with keys := .replicate 16 0 } = { m with keypad := .released }.store :=
  congrArg (fun keys => { m.store with keys }) keys_released.symm

theorem cells_blank (m : Machine) :
    { m with display := .blank }.store.cells = .replicate 32 (.replicate 64 0) := by
  refine Vector.ext fun y hy => Vector.ext fun x hx => ?_
  rw [getElem_cells _ hx hy, Display.lit_blank, Vector.getElem_replicate, Vector.getElem_replicate]
  rfl

theorem store_blank (m : Machine) :
    { m.store with cells := .replicate 32 (.replicate 64 0) }
      = { m with display := .blank }.store :=
  congrArg (fun cells => { m.store with cells }) (cells_blank m).symm

/-! ### Words and bytes -/

theorem and_one_eq (a : UInt8) : a &&& 1 = (a % 2 == 1).toUInt8 := by
  have hone : (a &&& 1).toNat = a.toNat % 2 := (UInt8.toNat_and a 1).trans (Nat.and_one_is_mod _)
  have hmod : (a % 2).toNat = a.toNat % 2 := UInt8.toNat_mod a 2
  apply UInt8.toNat_inj.1
  rw [hone]
  by_cases h : a % 2 = 1
  · rw [h] at hmod
    rw [← hmod, h]
    rfl
  · have hne : a.toNat % 2 ≠ 1 := fun e => h (UInt8.toNat_inj.1 (hmod.trans e))
    rw [beq_eq_false_iff_ne.2 h]
    exact Nat.mod_two_ne_one.1 hne

theorem shiftRight_eq (a : UInt8) : a >>> 7 = (decide (a ≥ 128)).toUInt8 := by
  have ha := a.toNat_lt
  have hshift : (a >>> 7).toNat = a.toNat / 128 := by
    rw [UInt8.toNat_shiftRight, Nat.shiftRight_eq_div_pow]
    rfl
  have hle : a ≥ 128 ↔ 128 ≤ a.toNat := UInt8.le_iff_toNat_le
  apply UInt8.toNat_inj.1
  rw [hshift]
  by_cases h : 128 ≤ a.toNat
  · rw [decide_eq_true (hle.2 h)]
    show a.toNat / 128 = 1
    omega
  · rw [decide_eq_false fun h' => h (hle.1 h')]
    show a.toNat / 128 = 0
    omega

theorem multiplyWords_glyph (b : UInt8) :
    multiplyWords (UInt16.ofNat glyphHeight) b.toUInt16
      = pure (UInt16.ofNat glyphHeight * b.toUInt16) := by
  have hb := b.toNat_lt
  have hword : b.toUInt16.toNat = b.toNat := UInt8.toNat_toUInt16 b
  refine fitting_of ?_ _
  show 5 * b.toUInt16.toNat < 65536
  omega

/-- The registers up to one that an operand names, counted. -/
theorem toNat_and_add (x : UInt8) : (x &&& 0xF).toNat + 1 = (Registers.slotOf x).val + 1 := by
  rw [UInt8.toNat_and]
  exact congrArg (· + 1) (toNat_and_slot x)

end Checked

end Chip8
