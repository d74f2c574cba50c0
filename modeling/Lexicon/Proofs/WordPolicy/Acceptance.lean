import Lexicon.WordPolicy
import Mathlib.Data.List.Count

/-!
# Which words are accepted

A text is accepted by one pass over it, which counts its digits and gives up at
the first code point that has no place in a word. The pass reaches the end
exactly if every code point is admitted, and then its count is the number of
digits, whatever class besides that of the digits a code point falls into
(`countDigits?_eq_some_iff`). So acceptance asks for four facts, none of which
depends on the order of the code points, and a policy that admits more and
takes longer words accepts whatever another one does (`accepts_rule`).
-/

namespace Lexicon.WordPolicy

variable {p q : WordPolicy} {c : CodePoint} {t u : Text}

/-- **A code point that may stand in a word**: a digit, a letter or one of the
connectors. -/
def Admits (p : WordPolicy) (c : CodePoint) : Prop :=
  c.isDecimalDigit = true ∨ c.isLetter = true ∨ c ∈ p.connectors

/-- **A text that is fit to be learned**, told by its length and by which code
points it holds. -/
structure IsLearnable (p : WordPolicy) (t : Text) : Prop where
  /-- It is not empty. -/
  length_pos : 1 ≤ t.length
  /-- It is not too long. -/
  length_le : (t.length : Int) ≤ p.maxLength
  /-- Everything in it may stand in a word. -/
  admits : ∀ c ∈ t, p.Admits c
  /-- It is not a number. -/
  exists_no_digit : ∃ c ∈ t, c.isDecimalDigit = false

@[simp] theorem isWordCodePoint_iff :
    p.isWordCodePoint c = true ↔ c.isLetter = true ∨ c ∈ p.connectors := by
  unfold isWordCodePoint
  rw [Bool.or_eq_true, List.any_beq']
  exact or_congr_right List.elem_iff

/-- **What the pass finds**: it reaches the end of a text exactly if everything
in it may stand in a word, with the digits before and in the text. -/
theorem countDigits?_eq_some_iff {digits n : Nat} :
    p.countDigits? digits t = some n
      ↔ (∀ c ∈ t, p.Admits c)
        ∧ n = digits + t.countP CodePoint.isDecimalDigit := by
  induction t generalizing digits with
  | nil => simp [countDigits?, eq_comm]
  | cons c rest ih =>
    rw [countDigits?, List.forall_mem_cons, List.countP_cons]
    by_cases hd : c.isDecimalDigit = true
    · -- a digit counts, even if it is a connector as well
      have hc : p.Admits c := Or.inl hd
      rw [if_pos hd, if_pos hd, ih, and_iff_right hc]
      exact and_congr_right fun _ => by omega
    · rw [if_neg hd, if_neg hd, Nat.add_zero]
      have hadmits : p.Admits c ↔ p.isWordCodePoint c = true := by
        rw [isWordCodePoint_iff]
        exact or_iff_right hd
      by_cases hw : p.isWordCodePoint c = true
      · rw [if_pos hw, ih, and_iff_right (hadmits.2 hw)]
      · rw [if_neg hw]
        exact iff_of_false (by simp) fun h => hw (hadmits.1 h.1.1)

/-- **A text is accepted exactly if it is fit to be learned.** -/
theorem accepts_iff_isLearnable : p.accepts t = true ↔ p.IsLearnable t := by
  unfold accepts
  by_cases hrange : t = [] ∨ p.maxLength < t.length
  · rw [if_pos hrange]
    refine iff_of_false (by simp) fun h => ?_
    obtain rfl | hlong := hrange
    · exact absurd h.length_pos (by simp)
    · exact absurd h.length_le (by omega)
  rw [if_neg hrange]
  obtain ⟨hne, hle⟩ := not_or.1 hrange
  cases hcount : p.countDigits? 0 t with
  | none =>
    -- the pass ended early, so something in the text has no place in a word
    refine iff_of_false (by simp) fun h => ?_
    rw [countDigits?_eq_some_iff.2 ⟨h.admits, rfl⟩] at hcount
    exact absurd hcount (by simp)
  | some digits =>
    obtain ⟨hadmits, rfl⟩ := countDigits?_eq_some_iff.1 hcount
    rw [Nat.zero_add, decide_eq_true_iff, List.countP_lt_length_iff]
    exact ⟨fun hdigit => ⟨List.length_pos_iff.2 hne, by omega, hadmits, hdigit⟩,
      fun h => h.exists_no_digit⟩

theorem IsLearnable.perm (h : p.IsLearnable t) (ht : t.Perm u) :
    p.IsLearnable u where
  length_pos := ht.length_eq ▸ h.length_pos
  length_le := ht.length_eq ▸ h.length_le
  admits c hc := h.admits c (ht.mem_iff.2 hc)
  exists_no_digit :=
    h.exists_no_digit.imp fun _ hc => hc.imp_left ht.mem_iff.1

/-- A policy that is as generous in connectors and in length finds fit what
another one does. -/
theorem IsLearnable.mono (h : p.IsLearnable t)
    (hc : p.connectors ⊆ q.connectors) (hl : p.maxLength ≤ q.maxLength) :
    q.IsLearnable t where
  length_pos := h.length_pos
  length_le := Int.le_trans h.length_le hl
  admits c hm := (h.admits c hm).imp_right fun ha => ha.imp_right fun hm => hc hm
  exists_no_digit := h.exists_no_digit

/-- **The rule of acceptance.** A text is accepted if and only if it holds at
least one code point and no more than the policy takes, each of them is a
digit, a letter or a connector, and one of them is no digit. Hence no order of
its code points is better than another, and no text is lost by taking more
connectors or longer words. -/
theorem accepts_rule (p : WordPolicy) (t : Text) :
    (p.accepts t = true
        ↔ 1 ≤ t.length ∧ (t.length : Int) ≤ p.maxLength
          ∧ (∀ c ∈ t, c.isDecimalDigit = true ∨ c.isLetter = true
            ∨ c ∈ p.connectors)
          ∧ ∃ c ∈ t, c.isDecimalDigit = false)
      ∧ (∀ u, t.Perm u → p.accepts u = p.accepts t)
      ∧ ∀ q : WordPolicy, p.connectors ⊆ q.connectors →
        p.maxLength ≤ q.maxLength → p.accepts t = true → q.accepts t = true := by
  refine ⟨?_, fun u hu => ?_, fun q hc hl ht => ?_⟩
  · rw [accepts_iff_isLearnable]
    exact ⟨fun h => ⟨h.1, h.2, h.3, h.4⟩,
      fun ⟨hpos, hle, hadmits, hdigit⟩ => ⟨hpos, hle, hadmits, hdigit⟩⟩
  · rw [Bool.eq_iff_iff, accepts_iff_isLearnable, accepts_iff_isLearnable]
    exact ⟨fun h => h.perm hu.symm, fun h => h.perm hu⟩
  · rw [accepts_iff_isLearnable] at ht ⊢
    exact ht.mono hc hl

/-- A policy for words of four code points, with a digit for a connector. -/
def shortWords : WordPolicy where
  connectors := lit "7-"
  maxLength := 4

/-- A house number is accepted in either order, and by the usual policy with a
digit more. -/
theorem accepts_rule_sample :
    (lit "7-é4").Perm (lit "é47-")
      ∧ shortWords.connectors ⊆ (⟨lit "'-7", 48⟩ : WordPolicy).connectors
      ∧ shortWords.maxLength ≤ (⟨lit "'-7", 48⟩ : WordPolicy).maxLength
      ∧ shortWords.accepts (lit "7-é4") = true
      ∧ shortWords.accepts (lit "é47-") = true
      ∧ (⟨lit "'-7", 48⟩ : WordPolicy).accepts (lit "7-é4") = true := by
  obtain ⟨-, horder, hmore⟩ := accepts_rule shortWords (lit "7-é4")
  have hperm : (lit "7-é4").Perm (lit "é47-") := by decide
  have hsub : shortWords.connectors ⊆ lit "'-7" := by decide
  have hle : shortWords.maxLength ≤ 48 := by decide
  have haccepts : shortWords.accepts (lit "7-é4") = true := by decide +kernel
  exact ⟨hperm, hsub, hle, haccepts, (horder _ hperm).trans haccepts,
    hmore ⟨lit "'-7", 48⟩ hsub hle haccepts⟩

/-- A number is not accepted, even if all of its digits are connectors. -/
example : shortWords.accepts (lit "777") = false := by decide +kernel

end Lexicon.WordPolicy
