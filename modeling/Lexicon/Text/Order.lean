import Lexicon.Text.CodePoint

/-!
# The order of texts

Listings come by name, and stored rows by locale, both in the order of code
points; on texts that can be written as UTF-8 this is the order of the
written bytes too. `sortNames` gives the names of a directory: in order, each
once, and (`mem_sortNames`) exactly the names it was given.
-/

namespace Lexicon

namespace Text

/-- A text in the order of its code points: the lesser code point at the
first difference, or the shorter text if there is none. -/
def le (s t : Text) : Bool :=
  !decide (t < s)

@[simp] theorem le_eq_true_iff {s t : Text} : le s t = true ↔ ¬ t < s := by
  unfold le
  rw [Bool.not_eq_true', decide_eq_false_iff_not]

protected theorem le_trans {s t u : Text} (hst : le s t = true)
    (htu : le t u = true) : le s u = true := by
  rw [le_eq_true_iff] at hst htu ⊢
  exact List.not_lt.2 (List.le_trans (List.not_lt.1 hst) (List.not_lt.1 htu))

protected theorem le_total (s t : Text) : (le s t || le t s) = true := by
  rw [Bool.or_eq_true, le_eq_true_iff, le_eq_true_iff]
  by_cases hts : t < s
  · exact Or.inr (List.lt_asymm hts)
  · exact Or.inl hts

/-- `insertName n ns` puts a name in its place in a list of names in order,
or leaves the list as it is where it holds the name already. -/
def insertName (n : Text) : List Text → List Text
  | [] => [n]
  | m :: ms =>
    if n < m then n :: m :: ms
    else if n = m then m :: ms
    else m :: insertName n ms

/-- **The names in order**: each once, by code point. -/
def sortNames (ns : List Text) : List Text :=
  ns.foldr insertName []

theorem mem_insertName {a n : Text} {ns : List Text} :
    a ∈ insertName n ns ↔ a = n ∨ a ∈ ns := by
  induction ns with
  | nil => simp [insertName]
  | cons m ms ih =>
    unfold insertName
    split
    · simp
    · split
      · rename_i h
        simp [h]
      · simp only [List.mem_cons, ih]
        exact or_left_comm

@[simp] theorem mem_sortNames {a : Text} {ns : List Text} :
    a ∈ sortNames ns ↔ a ∈ ns := by
  induction ns with
  | nil => rfl
  | cons m ms ih =>
    rw [sortNames, List.foldr_cons, mem_insertName, ← sortNames, ih,
      List.mem_cons]

/-- A name put in its place leaves the names in order. -/
theorem pairwise_insertName {n : Text} {ns : List Text}
    (h : ns.Pairwise (· < ·)) : (insertName n ns).Pairwise (· < ·) := by
  induction ns with
  | nil => simp [insertName]
  | cons m ms ih =>
    obtain ⟨hm, hs⟩ := List.pairwise_cons.1 h
    unfold insertName
    split
    · rename_i hlt
      refine List.pairwise_cons.2 ⟨fun a ha => ?_, h⟩
      rcases List.mem_cons.1 ha with rfl | ha
      · exact hlt
      · exact List.lt_trans hlt (hm a ha)
    · rename_i hge
      split
      · exact h
      · rename_i hne
        refine List.pairwise_cons.2 ⟨fun a ha => ?_, ih hs⟩
        rcases mem_insertName.1 ha with rfl | ha
        · exact (List.le_iff_lt_or_eq.1 (List.not_lt.1 hge)).resolve_right (Ne.symm hne)
        · exact hm a ha

/-- **The names come in order**, each once. -/
theorem pairwise_sortNames (ns : List Text) : (sortNames ns).Pairwise (· < ·) := by
  induction ns with
  | nil => exact List.Pairwise.nil
  | cons m ms ih => exact pairwise_insertName ih

end Text

end Lexicon
