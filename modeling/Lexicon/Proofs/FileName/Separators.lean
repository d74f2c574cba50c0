import Lexicon.Layout
import Lexicon.Proofs.FileName.Alphabet
import Lexicon.Proofs.Text.Cuts
import Lexicon.Proofs.Text.Parts

/-!
# Separators in escaped names

Underscores stand for themselves, and no escape holds one. So escaping goes
past the separator of a storage without touching it: it stands in an escaped
name where it stands in the name (`FileName.includes_escape`), and an escaped
name is cut where the name would be, into the two escaped pieces
(`FileName.cut?_escape`).
-/

namespace Lexicon

namespace FileName

/-- An escaped name opens with what stands for itself exactly if the name
does. -/
theorem prefix_escape_iff {s t : Text}
    (hs : ∀ c ∈ s, isPlain (c.val : Int) = true) :
    s <+: escape t ↔ s <+: t := by
  induction s generalizing t with
  | nil => exact iff_of_true List.nil_prefix List.nil_prefix
  | cons d s ih =>
    obtain ⟨hd, hs⟩ := List.forall_mem_cons.1 hs
    cases t with
    | nil => exact Iff.rfl
    | cons c t =>
      by_cases hc : isPlain (c.val : Int) = true
      · rw [escape_cons_of_isPlain hc, List.cons_prefix_cons,
          List.cons_prefix_cons, ih hs]
      · rw [escape, List.flatMap_cons, escapeCodePoint, if_neg hc,
          List.cons_append, List.cons_prefix_cons, List.cons_prefix_cons]
        -- an escape opens with the one sign that never stands for itself
        refine iff_of_false ?_ ?_
        · rintro ⟨rfl, -⟩
          exact absurd hd (by decide)
        · rintro ⟨rfl, -⟩
          exact hc hd

/-- Digits are no underscores. -/
theorem ne_underscore_of_not_isPlain {c d : CodePoint}
    (hc : ¬ isPlain (c.val : Int) = true) (hd : d ∈ escapeCodePoint c) :
    d ≠ (('_' : Char) : CodePoint) := by
  have hdigit : ∀ k : Fin 16, Hex.digit k.val ≠ (('_' : Char) : CodePoint) := by
    decide
  rw [escapeCodePoint, if_neg hc] at hd
  obtain rfl | hd := List.mem_cons.1 hd
  · decide
  · obtain ⟨k, rfl⟩ := Hex.mem_fixed hd
    exact hdigit k

theorem isPlain_separator :
    ∀ c ∈ Layout.separator, isPlain (c.val : Int) = true :=
  List.all_eq_true.1
    (show Layout.separator.all (isPlain ·.val) = true from rfl)

@[simp] theorem escape_separator : escape Layout.separator = Layout.separator :=
  escape_of_isPlain isPlain_separator

/-- **An escaped name is cut where the name is**: escaping neither makes a
separator nor takes one away. -/
theorem cut?_escape (t : Text) :
    Text.cut? Layout.separator (escape t)
      = (Text.cut? Layout.separator t).map (Prod.map escape escape) := by
  induction t with
  | nil => rfl
  | cons c t ih =>
    have hopens := prefix_escape_iff (t := c :: t) isPlain_separator
    by_cases hc : isPlain (c.val : Int) = true
    · rw [escape_cons_of_isPlain hc] at hopens ⊢
      rw [Text.cut?, Text.cut?]
      by_cases hs : Layout.separator <+: c :: t
      · obtain ⟨back, hback⟩ := hs
        rw [if_pos (List.isPrefixOf_iff_prefix.2 (hopens.2 ⟨back, hback⟩)),
          if_pos (List.isPrefixOf_iff_prefix.2 ⟨back, hback⟩),
          ← escape_cons_of_isPlain hc, ← hback, escape_append, escape_separator,
          List.drop_left, List.drop_left]
        rfl
      · rw [if_neg (fun h => hs (hopens.1 (List.isPrefixOf_iff_prefix.1 h))),
          if_neg (fun h => hs (List.isPrefixOf_iff_prefix.1 h)), ih]
        cases Text.cut? Layout.separator t with
        | none => rfl
        | some cut =>
          show some (c :: escape cut.1, _) = some (escape (c :: cut.1), _)
          rw [escape_cons_of_isPlain hc]
    · have hs : ¬ Layout.separator.isPrefixOf (c :: t) = true := by
        rw [List.isPrefixOf_iff_prefix]
        rintro ⟨back, hback⟩
        obtain ⟨rfl, -⟩ := List.cons.inj hback
        exact hc (isPlain_separator _ List.mem_cons_self)
      rw [escape, List.flatMap_cons, ← escape, Layout.separator,
        Text.cut?_append_of_not_mem
          (fun d hd => ne_underscore_of_not_isPlain hc hd),
        ← Layout.separator, ih, Text.cut?, if_neg hs]
      cases Text.cut? Layout.separator t with
      | none => rfl
      | some cut => rfl

/-- **An escaped name contains the separator** exactly if the name does. -/
@[simp] theorem includes_escape (t : Text) :
    (escape t).includes Layout.separator = t.includes Layout.separator := by
  unfold Text.includes
  rw [cut?_escape, Option.isSome_map]

end FileName

namespace Layout

/-- **Two texts around a separator are cut apart** exactly if the first neither
holds the separator nor ends with an underscore. -/
theorem cut?_append_separator_iff (key rest : Text) :
    Text.cut? separator (key ++ separator ++ rest) = some (key, rest)
      ↔ ¬ separator <:+: key ∧ ¬ (['_'] : Text) <:+ key := by
  rw [show separator = List.replicate 3 (('_' : Char) : CodePoint) from rfl]
  exact Text.cut?_append_replicate_iff (by decide) key rest

end Layout

end Lexicon
