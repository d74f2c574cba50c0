import Lexicon.Text.Hex
import Lexicon.Text.Split
import Lexicon.Text.Numeral

/-!
# Escaped file names

Identifiers become file names by escaping: ASCII letters, digits and the
underscore stand for themselves, and every other code point, the percent sign
included, is written as a percent sign and six lower-case hexadecimal digits.
Six digits reach every code point, so each escape has the same length and no
separator is needed behind it.

Reading is more generous than writing. Digits may be of either case, and a
code point that needs no escape may be escaped or stand for itself, so a name
may have many spellings and `escape` writes the canonical one. A percent sign
without the six digits of a code point is an error at its own position.
-/

namespace Lexicon

/-- A percent sign that no six digits of a code point follow. -/
structure EscapeError where
  /-- The name that was read. -/
  name : Text
  /-- Where the percent sign stands, counted in code points. -/
  position : Nat
  deriving DecidableEq

/-- What is said about a malformed escape. -/
def EscapeError.message (e : EscapeError) : Text :=
  lit "Malformed escape at position " ++ Text.ofNat e.position ++ lit " in '"
    ++ e.name ++ lit "'"

namespace FileName

/-- **Whether a number is a code point that stands for itself in a file
name**: an ASCII letter or digit, or the underscore. -/
def isPlain (n : Int) : Bool :=
  (0x30 ≤ n && n ≤ 0x39) || (0x41 ≤ n && n ≤ 0x5A) || (0x61 ≤ n && n ≤ 0x7A)
    || n == 0x5F

/-- The sign that opens an escape. -/
def percent : CodePoint := 0x25

/-- How many digits an escape has. -/
def escapeDigits : Nat := 6

/-- A code point as it is written in a file name. -/
def escapeCodePoint (c : CodePoint) : Text :=
  if isPlain c.val then [c] else percent :: Hex.fixed escapeDigits c.val

/-- **The file name of an identifier.** -/
def escape (name : Text) : Text :=
  name.flatMap escapeCodePoint

/-- The code point that the digits of an escape denote. -/
def escaped? (digits : Text) : Option CodePoint :=
  (Hex.number? digits).bind CodePoint.ofNat?

/-- The identifier that a file name spells from a position on, or the position
of its first malformed escape. -/
def unescapeFrom (position : Nat) : Text → Except Nat Text
  | [] => .ok []
  | c :: rest =>
    if c = percent then
      match rest with
      | d₁ :: d₂ :: d₃ :: d₄ :: d₅ :: d₆ :: rest =>
        match escaped? [d₁, d₂, d₃, d₄, d₅, d₆] with
        | some e => (unescapeFrom (position + 7) rest).map (e :: ·)
        | none => .error position
      | _ => .error position
    else
      (unescapeFrom (position + 1) rest).map (c :: ·)

/-- **The identifier that a file name spells**, or its first malformed
escape. -/
def unescape (name : Text) : Except EscapeError Text :=
  (unescapeFrom 0 name).mapError (EscapeError.mk name)

@[simp] theorem escape_append (s t : Text) :
    escape (s ++ t) = escape s ++ escape t :=
  List.flatMap_append

theorem unescapeFrom_cons_of_ne {c : CodePoint} (h : c ≠ percent)
    (position : Nat) (rest : Text) :
    unescapeFrom position (c :: rest)
      = (unescapeFrom (position + 1) rest).map (c :: ·) := by
  rw [unescapeFrom.eq_def]
  exact if_neg h

/-- Reading takes back what writing did to a code point. -/
theorem unescapeFrom_escapeCodePoint (position : Nat) (c : CodePoint)
    (rest : Text) :
    unescapeFrom position (escapeCodePoint c ++ rest)
      = (unescapeFrom (position + (escapeCodePoint c).length) rest).map
        (c :: ·) := by
  unfold escapeCodePoint
  split
  · rename_i h
    have hc : c ≠ percent := by
      rintro rfl
      exact absurd h (by decide)
    exact unescapeFrom_cons_of_ne hc position rest
  · have hl : (Hex.fixed escapeDigits c.val).length = 6 := Hex.length_fixed _ _
    have hv : escaped? (Hex.fixed escapeDigits c.val) = some c := by
      have hc := c.isLt
      rw [escaped?, Hex.number?_fixed (by unfold escapeDigits; omega)]
      exact CodePoint.ofNat?_val c
    rw [List.length_cons, hl]
    match hd : Hex.fixed escapeDigits c.val with
    | [d₁, d₂, d₃, d₄, d₅, d₆] =>
      rw [hd] at hv
      simp only [List.cons_append, List.nil_append]
      rw [unescapeFrom, if_pos rfl]
      simp only [hv]
    | [] | [_] | [_, _] | [_, _, _] | [_, _, _, _] | [_, _, _, _, _]
    | _ :: _ :: _ :: _ :: _ :: _ :: _ :: _ =>
      rw [hd] at hl
      simp at hl

@[simp] theorem unescapeFrom_escape (position : Nat) (name : Text) :
    unescapeFrom position (escape name) = .ok name := by
  induction name generalizing position with
  | nil => rfl
  | cons c rest ih =>
    rw [escape, List.flatMap_cons, unescapeFrom_escapeCodePoint, ← escape, ih]
    rfl

end FileName

end Lexicon
