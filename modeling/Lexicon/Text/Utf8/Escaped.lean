import Lexicon.Text.Utf8

/-!
# Names as bytes

A directory keeps the names of its entries as bytes. Where they are UTF-8, a
name shows the text they write, and every other byte is shown as a code point
of its own, an escaped byte. A name can be spelled in several ways that give
the same bytes and so the same entry; `respell` gives the one that a directory
shows.
-/

namespace Lexicon.Utf8

/-- The code point that shows a byte which belongs to no other one. -/
def escapedByte (b : Byte) : CodePoint :=
  ⟨0xDC00 + b.toNat, by have h := b.toNat_lt; omega⟩

/-- The bytes of a code point in a name: those of UTF-8, or the byte that it
shows. -/
def nameBytes (c : CodePoint) : List Byte :=
  if c.isEscapedByte then [UInt8.ofNat (c.val - 0xDC00)] else encodeCodePoint c

/-- **The bytes of a name.** -/
def encodeName (name : Text) : List Byte :=
  name.flatMap nameBytes

/-- The first run of surrogates of a name that are not all escaped bytes, from
the first one that is none; the first code point has the position
`position`. -/
def nameRunFrom? (position : Nat) : Text → Option SurrogateRun
  | [] => none
  | c :: rest =>
    if c.isSurrogate && !c.isEscapedByte then
      some ⟨c, position,
        position + (rest.takeWhile CodePoint.isSurrogate).length⟩
    else
      nameRunFrom? (position + 1) rest

/-- **The surrogates for which a name has no bytes**, if there are any. -/
def nameRun? (name : Text) : Option SurrogateRun :=
  nameRunFrom? 0 name

/-- The code point that a byte opens with the bytes behind it, and how many of
these it takes. -/
def opened? (b : Byte) (rest : List Byte) : Option (CodePoint × Nat) :=
  match lead? b with
  | none => none
  | some p =>
    match decode? (b :: rest.take p.owed) with
    | some [c] => some (c, p.owed)
    | _ => none

/-- **The name that bytes show**: the text they write as far as they are UTF-8,
and every other byte escaped. -/
def decodeName : List Byte → Text
  | [] => []
  | b :: rest =>
    match opened? b rest with
    | some (c, taken) => c :: decodeName (rest.drop taken)
    | none => escapedByte b :: decodeName rest
termination_by bytes => bytes.length
decreasing_by all_goals simp only [List.length_drop, List.length_cons]; omega

/-- **The spelling of a name that a directory shows.** A name without escaped
bytes is shown as it is. -/
def respell (name : Text) : Text :=
  if name.any CodePoint.isEscapedByte then decodeName (encodeName name)
  else name

/-- The bytes of a name are those of its parts, one behind the other. -/
@[simp] theorem encodeName_append (s t : Text) :
    encodeName (s ++ t) = encodeName s ++ encodeName t :=
  List.flatMap_append

theorem respell_of_not_escaped {name : Text}
    (h : ∀ c ∈ name, c.isEscapedByte = false) : respell name = name := by
  rw [respell, if_neg]
  simpa using h

end Lexicon.Utf8
