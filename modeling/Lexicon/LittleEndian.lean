import Lexicon.BigEndian

/-!
# Numbers with their lowest byte first

A field of fixed width may also hold a number with its lowest byte first. It is
the same field read the other way round (`reverse_bytes`). A negative number
stands in it as the number that is as much below the first one too large for
the field.
-/

namespace Lexicon.LittleEndian

/-- **The low bytes of a number**, lowest first. -/
def bytes : Nat → Nat → List Byte
  | 0, _ => []
  | width + 1, n => UInt8.ofNat (n % 0x100) :: bytes width (n / 0x100)

/-- **The low bytes of an integer**, lowest first. -/
def intBytes (width : Nat) (i : Int) : List Byte :=
  bytes width (i % (0x100 ^ width : Nat)).toNat

@[simp] theorem length_bytes (width n : Nat) :
    (bytes width n).length = width := by
  induction width generalizing n with
  | zero => rfl
  | succ width ih => rw [bytes, List.length_cons, ih]

/-- **The lowest byte first is the highest byte first, read backward.** -/
@[simp] theorem reverse_bytes (width n : Nat) :
    (bytes width n).reverse = BigEndian.bytes width n := by
  induction width generalizing n with
  | zero => rfl
  | succ width ih => rw [bytes, List.reverse_cons, ih, BigEndian.bytes]

theorem intBytes_natCast {width n : Nat} (h : n < 0x100 ^ width) :
    intBytes width n = bytes width n := by
  have hm : ((n : Int) % (0x100 ^ width : Nat)).toNat = n := by
    rw [← Int.natCast_emod, Int.toNat_natCast, Nat.mod_eq_of_lt h]
  rw [intBytes, hm]

end Lexicon.LittleEndian
