import Lexicon.Text.Utf8

/-!
# Numbers in fields of bytes

A field of fixed width holds a number with its highest byte first. Writing
keeps the low bytes of a number, so one that fits into its field is read back
as it was (`number_bytes`).
-/

namespace Lexicon.BigEndian

/-- **The low bytes of a number**, highest first. -/
def bytes : Nat → Nat → List Byte
  | 0, _ => []
  | width + 1, n => bytes width (n / 0x100) ++ [UInt8.ofNat (n % 0x100)]

/-- **The number that bytes give**, highest first. -/
def number (field : List Byte) : Nat :=
  field.foldl (fun n b => n * 0x100 + b.toNat) 0

@[simp] theorem length_bytes (width n : Nat) :
    (bytes width n).length = width := by
  induction width generalizing n with
  | zero => rfl
  | succ width ih => rw [bytes, List.length_append, ih, List.length_singleton]

@[simp] theorem number_concat (field : List Byte) (b : Byte) :
    number (field ++ [b]) = number field * 0x100 + b.toNat := by
  unfold number
  rw [List.foldl_append]
  rfl

/-- **A number that fits into its field is read back as it was written.** -/
theorem number_bytes {width n : Nat} (h : n < 0x100 ^ width) :
    number (bytes width n) = n := by
  induction width generalizing n with
  | zero =>
    obtain rfl : n = 0 := by simpa using h
    rfl
  | succ width ih =>
    have hd : n / 0x100 < 0x100 ^ width := by
      rw [Nat.pow_succ] at h
      exact Nat.div_lt_of_lt_mul (by rwa [Nat.mul_comm])
    have hb : (UInt8.ofNat (n % 0x100)).toNat = n % 0x100 := by
      simp
    rw [bytes, number_concat, ih hd, hb]
    omega

end Lexicon.BigEndian
