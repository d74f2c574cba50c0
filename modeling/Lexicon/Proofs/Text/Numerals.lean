import Lexicon.Proofs.Text.Parts
import Lexicon.Text.Numeral

/-!
# Reading numerals back

The plain form in which a number is written is one of the many in which it can
be read: nothing is around it, no sign is in front, its digits are those of
ASCII and nothing parts them. So a number is read back as it was written, unless
it has more digits than a numeral may have (`Numeral.int?_ofNat`).
-/

namespace Lexicon.Numeral

theorem val_ofChar_of_isDigit {c : Char} (h : c.isDigit = true) :
    0x30 ≤ (CodePoint.ofChar c).val ∧ (CodePoint.ofChar c).val ≤ 0x39
      ∧ (CodePoint.ofChar c).val = c.toNat := by
  have hrange : 48 ≤ c.val ∧ c.val ≤ 57 := by
    simpa [Char.isDigit] using h
  exact ⟨hrange.1, hrange.2, rfl⟩

theorem digitValue?_ofChar {c : Char} (h : c.isDigit = true) :
    (CodePoint.ofChar c).digitValue? = some (c.toNat - '0'.toNat) := by
  obtain ⟨hlow, hhigh, hval⟩ := val_ofChar_of_isDigit h
  unfold CodePoint.digitValue?
  rw [if_pos (by omega), if_pos ⟨hlow, hhigh⟩, hval]
  rfl

/-- **ASCII digits are read one by one.** -/
theorem digits?_map_ofChar {cs : List Char} (hne : cs ≠ [])
    (h : ∀ c ∈ cs, c.isDigit = true) :
    digits? (cs.map CodePoint.ofChar)
      = some (cs.map fun c => c.toNat - '0'.toNat) := by
  induction cs with
  | nil => exact absurd rfl hne
  | cons c rest ih =>
    obtain ⟨hc, hrest⟩ := List.forall_mem_cons.1 h
    cases rest with
    | nil =>
      rw [List.map_singleton, digits?, digitValue?_ofChar hc]
      rfl
    | cons d more =>
      have hd := (val_ofChar_of_isDigit (hrest d List.mem_cons_self)).2.1
      have hparted : CodePoint.ofChar d ≠ underscore := by
        intro heq
        rw [heq] at hd
        exact absurd hd (by decide)
      have hmore := ih (List.cons_ne_nil _ _) hrest
      rw [List.map_cons, List.map_cons] at hmore ⊢
      rw [digits?, digitValue?_ofChar hc]
      dsimp only
      rw [if_neg hparted, hmore]
      rfl

/-- **A number is read back from its digits.** -/
theorem nat?_ofNat {n : Nat} (h : (Text.ofNat n).length ≤ maxDigits) :
    nat? (Text.ofNat n) = some n := by
  have hascii : ∀ c ∈ Nat.toDigits 10 n, c.isDigit = true := fun c hc =>
    Nat.isDigit_of_mem_toDigits (by decide) (by decide) hc
  have hdigits := digits?_map_ofChar Nat.toDigits_ne_nil hascii
  have hvalue : ofDigits ((Nat.toDigits 10 n).map fun c => c.toNat - '0'.toNat)
      = n := by
    have hstep : (fun (m : Nat) (c : Char) => m * 10 + (c.toNat - '0'.toNat))
        = fun m c => 10 * m + (c.toNat - '0'.toNat) := by
      funext m c
      rw [Nat.mul_comm]
    unfold ofDigits
    rw [List.foldl_map, hstep]
    exact Nat.ofDigitChars_toDigits (by decide) (by decide)
  unfold Text.ofNat at h ⊢
  rw [List.length_map] at h
  unfold nat?
  rw [hdigits, Option.bind_eq_bind, Option.bind_some, List.length_map,
    if_pos h, hvalue]

/-- **A number is read back as it was written**, if it has no more digits than
a numeral may have. -/
theorem int?_ofNat {n : Nat} (h : (Text.ofNat n).length ≤ maxDigits) :
    int? (Text.ofNat n) = some (n : Int) := by
  have hdigit : ∀ c ∈ Text.ofNat n, 0x30 ≤ c.val ∧ c.val ≤ 0x39 := by
    intro c hc
    obtain ⟨d, hd, rfl⟩ := List.mem_map.1 hc
    obtain ⟨hlow, hhigh, -⟩ := val_ofChar_of_isDigit
      (Nat.isDigit_of_mem_toDigits (by decide) (by decide) hd)
    exact ⟨hlow, hhigh⟩
  have htrim : (Text.ofNat n).trim isBlank = Text.ofNat n := by
    refine Text.trim_of_forall fun c hc => ?_
    obtain ⟨hlow, hhigh⟩ := hdigit c hc
    unfold isBlank
    rw [if_pos (by omega)]
    simp
    omega
  have hnat := nat?_ofNat h
  unfold int?
  rw [htrim]
  cases hn : Text.ofNat n with
  | nil =>
    rw [hn] at hnat
    exact absurd hnat (by simp [nat?, digits?])
  | cons c rest =>
    -- the first digit is no sign
    have hc := hdigit c (hn ▸ List.mem_cons_self)
    have hminus : c ≠ (('-' : Char) : CodePoint) := by
      rintro rfl
      exact absurd hc (by decide)
    have hplus : c ≠ (('+' : Char) : CodePoint) := by
      rintro rfl
      exact absurd hc (by decide)
    dsimp only
    rw [if_neg hminus, if_neg hplus, ← hn, hnat]
    rfl

end Lexicon.Numeral
