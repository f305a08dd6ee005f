import Chip8.Proofs.Text.Numeral

/-!
# Snapshot lines read back

A snapshot line is read back as the snapshot that it shows (`ofCharacters?_characters`), field by
field: each field but the last is followed by another one, which begins with a space. Where a field
ends is seen by that alone, so a line is known to be that of its snapshot although addresses have
three or four digits and the depth has one to three.
-/

namespace Chip8.Snapshot

open Text

/-! ### Registers -/

/-- The fields of registers of which the first has number `n`. -/
def registerFields (n : ℕ) (bytes : List UInt8) : List Char :=
  (bytes.zipIdx n).flatMap fun (b, n) => registerField n b

theorem registerFields_cons (n : ℕ) (b : UInt8) (rest : List UInt8) :
    registerFields n (b :: rest) = registerField n b ++ registerFields (n + 1) rest := by
  rw [registerFields, List.zipIdx_cons, List.flatMap_cons]
  rfl

/-- What follows a field is nothing or begins with a space. -/
theorem head?_registerFields (n : ℕ) (bytes : List UInt8) :
    ∀ c ∈ (registerFields n bytes).head?, c = ' ' := by
  cases bytes with
  | nil => exact nofun
  | cons b rest =>
    rw [registerFields_cons]
    rintro c hc
    exact (Option.some.inj hc).symm

theorem readRegisters?_registerFields (n : ℕ) (bytes : List UInt8) :
    readRegisters? n (registerFields n bytes) bytes.length = some (bytes, []) := by
  induction bytes generalizing n with
  | nil => rfl
  | cons b rest ih =>
    have hlabel : (" v" ++ hex 1 n ++ "=").toList = " v".toList ++ hexDigits 1 n ++ "=".toList := by
      rw [String.toList_append, String.toList_append, toList_hex]
    have hfield : registerField n b ++ registerFields (n + 1) rest
        = (" v" ++ hex 1 n ++ "=").toList
          ++ (hexDigits 2 b.toNat ++ registerFields (n + 1) rest) := by
      rw [hlabel, registerField, List.append_assoc _ (hexDigits 2 b.toNat)]
    rw [registerFields_cons, hfield, List.length_cons, readRegisters?,
      readField?_append (numberOf?_hexDigits 2 b.toNat) (head?_registerFields (n + 1) rest),
      Option.bind_eq_bind, Option.bind_some]
    dsimp only
    rw [ih, Option.bind_eq_bind, Option.bind_some, UInt8.ofNat_toNat]
    rfl

/-! ### Lines -/

theorem toList_text (s : Snapshot) : s.text.toList = s.characters :=
  String.toList_ofList

theorem characters_eq (s : Snapshot) :
    s.characters
      = "opcode=".toList ++ (hexDigits 4 s.opcode.toNat
        ++ (" pc=".toList ++ (hexDigits 3 s.pc.toNat
        ++ (" sp=".toList ++ (decimalDigits s.sp.toNat
        ++ (" i=".toList ++ (hexDigits 3 s.i.toNat ++ registerFields 0 s.v.toList))))))) := by
  unfold characters registerFields
  simp only [List.append_assoc]

/-- A snapshot is read back from its line. -/
theorem ofCharacters?_characters (s : Snapshot) : ofCharacters? s.characters = some s := by
  have hspace : ∀ {label : String} {rest : List Char}, label.toList.head? = some ' ' →
      ∀ c ∈ (label.toList ++ rest).head?, c = ' ' := by
    intro label rest hlabel c hc
    rw [List.head?_append, hlabel] at hc
    exact (Option.some.inj hc).symm
  have hv := readRegisters?_registerFields 0 s.v.toList
  rw [Vector.length_toList] at hv
  rw [characters_eq]
  unfold ofCharacters?
  -- one field after the other, each with the rest of the line behind it
  rw [readField?_append (numberOf?_hexDigits 4 _) (hspace rfl), Option.bind_eq_bind,
    Option.bind_some]
  dsimp only
  rw [readField?_append (numberOf?_hexDigits 3 _) (hspace rfl), Option.bind_some]
  dsimp only
  rw [readField?_append (numberOf?_decimalDigits _) (hspace rfl), Option.bind_some]
  dsimp only
  rw [readField?_append (numberOf?_hexDigits 3 _) (head?_registerFields 0 _), Option.bind_some]
  dsimp only
  rw [hv, Option.bind_eq_bind, Option.bind_some]
  dsimp only
  rw [dif_pos ⟨Vector.length_toList, rfl⟩]
  simp only [UInt16.ofNat_toNat, UInt8.ofNat_toNat]
  rfl

/-- An address of four digits and a depth of three make the line longer. -/
example : (⟨0x00EE, 0xFFFF, 255, 0xFFF, .replicate 16 0xA⟩ : Snapshot).text
    = "opcode=00EE pc=FFFF sp=255 i=FFF v0=0A v1=0A v2=0A v3=0A v4=0A v5=0A v6=0A v7=0A"
      ++ " v8=0A v9=0A vA=0A vB=0A vC=0A vD=0A vE=0A vF=0A" := by
  decide +kernel

/-- A snapshot line is one line. -/
theorem newline_not_mem_characters (s : Snapshot) : '\n' ∉ s.characters := by
  have hnumeral : ∀ {base n : ℕ} {digits : List Char}, numberOf? base digits = some n →
      '\n' ∉ digits := fun hn => not_mem_of_digitValue?_eq_none hn rfl
  have hfields : '\n' ∉ registerFields 0 s.v.toList := by
    unfold registerFields
    rw [List.mem_flatMap]
    rintro ⟨⟨b, n⟩, -, hmem⟩
    refine absurd hmem ?_
    simp only [registerField, List.mem_append, not_or]
    exact ⟨⟨⟨by decide, hnumeral (numberOf?_hexDigits 1 _)⟩, by decide⟩,
      hnumeral (numberOf?_hexDigits 2 _)⟩
  rw [characters_eq]
  simp only [List.mem_append, not_or]
  exact ⟨by decide, hnumeral (numberOf?_hexDigits 4 _), by decide,
    hnumeral (numberOf?_hexDigits 3 _), by decide, hnumeral (numberOf?_decimalDigits _), by decide,
    hnumeral (numberOf?_hexDigits 3 _), hfields⟩

end Chip8.Snapshot
