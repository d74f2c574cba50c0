import Lexicon.Number

/-!
# Code points and texts

Every name, identifier and message is a sequence of Unicode code points.
Surrogates are code points like any other: a file name whose bytes are not
UTF-8 shows them, an identifier may hold one alone, and escaping must bring
it back. `String` leaves them out, so a text is a list of code points of its
own, and `lit` writes a fixed text down as the string that spells it.
-/

namespace Lexicon

/-- **A Unicode code point**, surrogates included. -/
abbrev CodePoint := Fin 0x110000

/-- There is a code point, so that a number can be written for one. -/
instance CodePoint.neZero : NeZero 0x110000 := ⟨by decide⟩

/-- **A text**: a sequence of code points, in order. -/
abbrev Text := List CodePoint

namespace CodePoint

/-- The code point of a character. -/
def ofChar (c : Char) : CodePoint :=
  ⟨c.toNat, by
    have h := c.valid
    simp only [Char.toNat, UInt32.isValidChar, Nat.isValidChar] at *
    omega⟩

instance : Coe Char CodePoint := ⟨ofChar⟩

/-- The code point of a number, if it is one. -/
def ofNat? (n : Nat) : Option CodePoint :=
  if h : n < 0x110000 then some ⟨n, h⟩ else none

@[simp] theorem ofNat?_val (c : CodePoint) : ofNat? c.val = some c := by
  unfold ofNat?
  rw [dif_pos c.isLt]

/-- Whether a code point is half of a surrogate pair, which no encoding of
characters writes. -/
def isSurrogate (c : CodePoint) : Bool :=
  0xD800 ≤ c.val && c.val ≤ 0xDFFF

/-- Whether a code point stands for one byte of a file name that is not
UTF-8: `U+DC80` to `U+DCFF` are the bytes `80` to `ff`. -/
def isEscapedByte (c : CodePoint) : Bool :=
  0xDC80 ≤ c.val && c.val ≤ 0xDCFF

end CodePoint

/-- The text a string spells. -/
def lit (s : String) : Text :=
  s.toList.map CodePoint.ofChar

end Lexicon
