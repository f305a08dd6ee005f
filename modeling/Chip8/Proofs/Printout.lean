import Chip8.Headless
import Chip8.Proofs.Display
import Chip8.Proofs.Snapshot

/-!
# What is printed tells what it shows

A display and a snapshot are printed as lines: one for each row of the display, with one character
for each pixel, and one for the snapshot. None of them has a line break inside, so the text splits
into these lines again (`splitOn_printed`). The rows give the pixels back and the last line the
snapshot, and no other display and snapshot have the same text (`printed_state_reads_back`).

`Headless.Shows` says what is printed of a machine character by character, without the functions
that print it (`shows_report`), and leaves no doubt of the display and the snapshot
(`Shows.unique`).
-/

namespace Chip8

/-- Lines that are ended by line breaks are found again between them, with what follows. -/
theorem splitOn_flatMap_append {lines : List (List Char)} (hlines : ∀ line ∈ lines, '\n' ∉ line)
    (rest : List Char) :
    (lines.flatMap (· ++ ['\n']) ++ rest).splitOn '\n' = lines ++ rest.splitOn '\n' := by
  induction lines with
  | nil => rfl
  | cons line lines ih =>
    rw [List.forall_mem_cons] at hlines
    rw [List.flatMap_cons, List.append_assoc, List.append_assoc, List.singleton_append,
      List.splitOn_append_cons_self_of_not_mem hlines.1, ih hlines.2, List.cons_append]

namespace Display

/-- The rows as text, from the top. -/
def rows (d : Display) : List (List Char) :=
  (List.finRange 32).map d.rowText

theorem toList_text (d : Display) : d.text.toList = d.characters :=
  String.toList_ofList

theorem characters_eq (d : Display) : d.characters = d.rows.flatMap (· ++ ['\n']) := by
  rw [characters, rows, List.flatMap_map]

/-- The text, pixel by pixel. -/
theorem characters_eq_flatMap (d : Display) :
    d.characters = (List.finRange 32).flatMap fun y =>
      ((List.finRange 64).map fun x => if d.lit ⟨x, y⟩ then '#' else ' ') ++ ['\n'] := by
  rw [characters]
  refine List.flatMap_congr fun y _ => ?_
  rw [rowText, Pixel.ofRow, List.map_map]
  rfl

theorem newline_not_mem_rows (d : Display) : ∀ row ∈ d.rows, '\n' ∉ row := by
  intro row hrow hmem
  obtain ⟨y, -, rfl⟩ := List.mem_map.1 hrow
  obtain ⟨p, -, hp⟩ := List.mem_map.1 hmem
  rw [character] at hp
  split at hp
  · cases hp
  · cases hp

theorem length_rows (d : Display) : d.rows.length = 32 := by
  rw [rows, List.length_map, List.length_finRange]

theorem length_of_mem_rows {d : Display} {row : List Char} (h : row ∈ d.rows) :
    row.length = 64 := by
  obtain ⟨y, -, rfl⟩ := List.mem_map.1 h
  rw [rowText, Pixel.ofRow, List.length_map, List.length_map, List.length_finRange]

theorem getElem?_rows (d : Display) (y : Fin 32) : d.rows[y.val]? = some (d.rowText y) := by
  rw [rows, List.getElem?_map]
  simp

theorem getElem?_rowText (d : Display) (x : Fin 64) (y : Fin 32) :
    (d.rowText y)[x.val]? = some (d.character ⟨x, y⟩) := by
  rw [rowText, Pixel.ofRow, List.getElem?_map, List.getElem?_map]
  simp

theorem character_eq_iff {d : Display} {p : Pixel} : d.character p = '#' ↔ d.lit p = true := by
  rw [character]
  split
  · next h => exact iff_of_true rfl h
  · next h => exact iff_of_false (by decide) h

/-- A display is known by its rows. -/
theorem rows_injective {d d' : Display} (h : d.rows = d'.rows) : d = d' := by
  refine ext_lit fun p => ?_
  obtain ⟨x, y⟩ := p
  have hrow : d.rowText y = d'.rowText y := by
    rw [← Option.some_inj, ← getElem?_rows, ← getElem?_rows, h]
  have hcharacter : d.character ⟨x, y⟩ = d'.character ⟨x, y⟩ := by
    rw [← Option.some_inj, ← getElem?_rowText, ← getElem?_rowText, hrow]
  rw [Bool.eq_iff_iff, ← character_eq_iff, ← character_eq_iff, hcharacter]

/-- The rows of a display and a line below them are found again. -/
theorem splitOn_characters_append (d : Display) {line : List Char} (h : '\n' ∉ line) :
    (d.characters ++ (line ++ ['\n'])).splitOn '\n' = d.rows ++ [line, []] := by
  rw [d.characters_eq, splitOn_flatMap_append d.newline_not_mem_rows,
    List.splitOn_append_cons_self_of_not_mem h]
  rfl

theorem characters_append_inj {d d' : Display} {line line' : List Char} (hline : '\n' ∉ line)
    (hline' : '\n' ∉ line')
    (h : d.characters ++ (line ++ ['\n']) = d'.characters ++ (line' ++ ['\n'])) :
    d = d' ∧ line = line' := by
  have hsplit : d.rows ++ [line, []] = d'.rows ++ [line', []] := by
    rw [← d.splitOn_characters_append hline, h, d'.splitOn_characters_append hline']
  have hlength : d.rows.length = d'.rows.length := by
    rw [length_rows, length_rows]
  obtain ⟨hrows, hlines⟩ := List.append_inj hsplit hlength
  exact ⟨rows_injective hrows, (List.cons.inj hlines).1⟩

end Display

namespace Headless

theorem toList_printed (d : Display) (s : Snapshot) :
    (d.text ++ s.text ++ "\n").toList = d.characters ++ (s.characters ++ ['\n']) := by
  rw [String.toList_append, String.toList_append, d.toList_text, s.toList_text, List.append_assoc]
  rfl

theorem splitOn_printed (d : Display) (s : Snapshot) :
    (d.text ++ s.text ++ "\n").toList.splitOn '\n' = d.rows ++ [s.characters, []] := by
  rw [toList_printed, d.splitOn_characters_append s.newline_not_mem_characters]

/-- What is printed has one display and one snapshot. -/
theorem printed_eq_iff {d d' : Display} {s s' : Snapshot} :
    d'.text ++ s'.text ++ "\n" = d.text ++ s.text ++ "\n" ↔ d' = d ∧ s' = s := by
  constructor
  · intro h
    have hlist := congrArg String.toList h
    rw [toList_printed, toList_printed] at hlist
    obtain ⟨hd, hline⟩ := Display.characters_append_inj s'.newline_not_mem_characters
      s.newline_not_mem_characters hlist
    refine ⟨hd, Option.some.inj ?_⟩
    rw [← s'.ofCharacters?_characters, ← s.ofCharacters?_characters, hline]
  · rintro ⟨rfl, rfl⟩
    rfl

/-! ### What an output shows -/

/-- An output that shows a machine: one line for each row of the display, from the top, with `#` for
a pixel that is on and a space for one that is off, and a line that reads as the opcode at the
program counter, the program counter, the stack depth, the address register and the registers. -/
def Shows (m : Machine) (output : String) : Prop :=
  ∃ line, '\n' ∉ line ∧
    Snapshot.ofCharacters? line = some ⟨m.opcode.toWord, m.pc, m.calls.depth, m.i, m.v.values⟩ ∧
    output.toList = ((List.finRange 32).flatMap fun y =>
      ((List.finRange 64).map fun x => if m.display.lit ⟨x, y⟩ then '#' else ' ') ++ ['\n'])
        ++ (line ++ ['\n'])

theorem shows_report (m : Machine) : Shows m (report m) := by
  refine ⟨m.snapshot.characters, m.snapshot.newline_not_mem_characters,
    m.snapshot.ofCharacters?_characters, ?_⟩
  rw [report, toList_printed, m.display.characters_eq_flatMap]

/-- Machines that the same output shows look the same. -/
theorem Shows.unique {m m' : Machine} {output : String} (h : Shows m output)
    (h' : Shows m' output) : m.display = m'.display ∧ m.snapshot = m'.snapshot := by
  obtain ⟨line, hline, hread, houtput⟩ := h
  obtain ⟨line', hline', hread', houtput'⟩ := h'
  rw [← m.display.characters_eq_flatMap] at houtput
  rw [← m'.display.characters_eq_flatMap] at houtput'
  obtain ⟨hd, rfl⟩ :=
    Display.characters_append_inj hline hline' (houtput.symm.trans houtput')
  exact ⟨hd, Option.some.inj (hread.symm.trans hread')⟩

/-! ### Reading it back -/

/-- Whatever the display and the snapshot, what is printed of them consists of 33 lines, each with
a line break at its end. The first 32 are the rows of the display, each of 64 characters with `#`
for a pixel that is on and a space for one that is off. The last one is read back as the snapshot,
though the addresses in it have three or four digits and the depth has one to three. So nothing else
is printed in the same way, and what is printed at the end of a run tells both of the machine. -/
theorem printed_state_reads_back (d : Display) (s : Snapshot) :
    let printed := d.text ++ s.text ++ "\n"
    (∃ rows line, printed.toList.splitOn '\n' = rows ++ [line, []] ∧ rows.length = 32 ∧
      (∀ row ∈ rows, row.length = 64) ∧
      (∀ x : Fin 64, ∀ y : Fin 32, ∃ row, rows[y.val]? = some row ∧
        row[x.val]? = some (if d.lit ⟨x, y⟩ then '#' else ' ')) ∧
      Snapshot.ofCharacters? line = some s) ∧
    (∀ d' s', d'.text ++ s'.text ++ "\n" = printed ↔ d' = d ∧ s' = s) ∧
    (∀ m, report m = printed ↔ m.display = d ∧ m.snapshot = s) ∧
    (Text.hexDigits 3 s.pc.toNat).length = (if s.pc < 0x1000 then 3 else 4) ∧
    (Text.hexDigits 3 s.i.toNat).length = (if s.i < 0x1000 then 3 else 4) ∧
    (Text.decimalDigits s.sp.toNat).length
      = if s.sp < 10 then 1 else if s.sp < 100 then 2 else 3 := by
  intro printed
  have hpixels : ∀ x : Fin 64, ∀ y : Fin 32, ∃ row, d.rows[y.val]? = some row ∧
      row[x.val]? = some (if d.lit ⟨x, y⟩ then '#' else ' ') :=
    fun x y => ⟨d.rowText y, d.getElem?_rows y, d.getElem?_rowText x y⟩
  refine ⟨⟨d.rows, s.characters, splitOn_printed d s, d.length_rows, ?_, hpixels,
    s.ofCharacters?_characters⟩, fun d' s' => printed_eq_iff, fun m => printed_eq_iff,
    Text.length_hexDigits_address s.pc, Text.length_hexDigits_address s.i,
    Text.length_decimalDigits_byte s.sp⟩
  exact fun row => Display.length_of_mem_rows

end Headless

end Chip8
