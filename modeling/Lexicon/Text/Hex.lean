import Lexicon.Text.CodePoint

/-!
# Hexadecimal digits

Escapes and the magic numbers of error messages are written in lower-case
hexadecimal. Reading takes either case, but ASCII digits only.
-/

namespace Lexicon.Hex

/-- The lower-case digit of a value below sixteen. -/
def digit (n : Nat) : CodePoint :=
  if n < 10 then Fin.ofNat _ (0x30 + n) else Fin.ofNat _ (0x61 + (n - 10))

/-- **The value of a hexadecimal digit**, in either case. -/
def value? (c : CodePoint) : Option Nat :=
  let n := c.val
  if 0x30 ≤ n ∧ n ≤ 0x39 then some (n - 0x30)
  else if 0x61 ≤ n ∧ n ≤ 0x66 then some (n - 0x61 + 10)
  else if 0x41 ≤ n ∧ n ≤ 0x46 then some (n - 0x41 + 10)
  else none

/-- The last `width` digits of a number, leading zeros included. -/
def fixed : Nat → Nat → Text
  | 0, _ => []
  | width + 1, n => fixed width (n / 16) ++ [digit (n % 16)]

/-- The number that digits spell, if all of them are digits. -/
def number? (t : Text) : Option Nat :=
  t.foldlM (fun n c => (value? c).map (n * 16 + ·)) 0

/-- The digits of a number, without leading zeros. -/
def digits (n : Nat) : Text :=
  (Nat.toDigits 16 n).map CodePoint.ofChar

theorem value?_digit {n : Nat} (h : n < 16) : value? (digit n) = some n := by
  have key : ∀ k : Fin 16, value? (digit k.val) = some k.val := by decide
  exact key ⟨n, h⟩

@[simp] theorem length_fixed (width n : Nat) :
    (fixed width n).length = width := by
  induction width generalizing n with
  | zero => rfl
  | succ width ih => rw [fixed, List.length_append, ih, List.length_singleton]

/-- The fixed digits of a number spell it, if there are enough of them. -/
theorem number?_fixed {width n : Nat} (h : n < 16 ^ width) :
    number? (fixed width n) = some n := by
  induction width generalizing n with
  | zero =>
    obtain rfl : n = 0 := by simpa using h
    rfl
  | succ width ih =>
    have hd : n / 16 < 16 ^ width := by
      rw [Nat.pow_succ] at h
      exact Nat.div_lt_of_lt_mul (by rwa [Nat.mul_comm])
    have hn := ih hd
    unfold number? at hn ⊢
    rw [fixed, List.foldlM_append, hn]
    simp only [bind, Option.bind, List.foldlM_cons, List.foldlM_nil,
      value?_digit (Nat.mod_lt n (by decide)), Option.map_some, pure]
    congr 1
    omega

end Lexicon.Hex
