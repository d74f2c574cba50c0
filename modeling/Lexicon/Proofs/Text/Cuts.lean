import Mathlib.Data.List.Infix
import Lexicon.Text.Split

/-!
# Where a text is cut

A text is cut at the first place where the separator stands, so it can be cut
exactly if it contains the separator (`Text.includes_iff`), and never behind a
place where it stands (`Text.exists_cut?_append`).

A separator that is a run of one sign can be met too early in two ways: it
stands in the part before already, or that part ends with the sign, and then
the run seems to begin one place sooner. These are the only ways
(`Text.cut?_append_replicate_iff`).
-/

namespace Lexicon.Text

variable {separator t : Text}

/-- **A cut is made no later than a place where the separator stands.** -/
theorem exists_cut?_append (separator front back : Text) :
    ∃ before after,
      cut? separator (front ++ separator ++ back) = some (before, after)
        ∧ before.length ≤ front.length := by
  induction front with
  | nil =>
    rw [List.nil_append]
    cases ht : separator ++ back with
    | nil =>
      obtain ⟨rfl, -⟩ := List.append_eq_nil_iff.1 ht
      exact ⟨[], [], rfl, Nat.le_refl _⟩
    | cons c rest =>
      have hprefix : separator.isPrefixOf (c :: rest) = true :=
        List.isPrefixOf_iff_prefix.2 ⟨back, ht⟩
      rw [cut?, if_pos hprefix]
      exact ⟨[], _, rfl, Nat.le_refl _⟩
  | cons c front ih =>
    rw [List.cons_append, List.cons_append, cut?]
    split
    · exact ⟨[], _, rfl, Nat.zero_le _⟩
    · obtain ⟨before, after, hcut, hlength⟩ := ih
      rw [hcut]
      exact ⟨c :: before, after, rfl, Nat.succ_le_succ hlength⟩

theorem cut?_append (hne : separator ≠ []) (back : Text) :
    cut? separator (separator ++ back) = some ([], back) := by
  obtain ⟨d, more, rfl⟩ := List.exists_cons_of_ne_nil hne
  have hprefix : (d :: more).isPrefixOf (d :: (more ++ back)) = true :=
    List.isPrefixOf_iff_prefix.2 ⟨back, rfl⟩
  rw [List.cons_append, cut?, if_pos hprefix, ← List.cons_append,
    List.drop_left]

/-- **What follows a text that can be cut** does not move the cut. -/
theorem cut?_append_of_cut? {before after : Text}
    (h : cut? separator t = some (before, after)) (more : Text) :
    cut? separator (t ++ more) = some (before, after ++ more) := by
  induction t generalizing before with
  | nil =>
    rw [cut?] at h
    split at h
    · rename_i hnil
      obtain ⟨rfl, rfl⟩ := Prod.mk.inj (Option.some.inj h)
      rw [hnil]
      cases more <;> rfl
    · exact absurd h (by simp)
  | cons c t ih =>
    rw [cut?] at h
    rw [List.cons_append, cut?]
    split at h
    · rename_i hopens
      obtain ⟨back, hback⟩ := List.isPrefixOf_iff_prefix.1 hopens
      obtain ⟨rfl, rfl⟩ := Prod.mk.inj (Option.some.inj h)
      rw [← List.cons_append, ← hback, List.append_assoc,
        if_pos (List.isPrefixOf_iff_prefix.2 (List.prefix_append _ _)),
        List.drop_left, List.drop_left]
    · rename_i hopens
      obtain ⟨⟨front, _⟩, hcut, heq⟩ := Option.map_eq_some_iff.1 h
      obtain ⟨rfl, rfl⟩ := Prod.mk.inj heq
      -- the separator stands in what is left, so it does not reach beyond it
      have hlength : separator.length ≤ (c :: t).length := by
        rw [eq_of_cut? hcut]
        simp only [List.length_cons, List.length_append]
        omega
      rw [if_neg, ih hcut]
      · rfl
      · rw [List.isPrefixOf_iff_prefix, ← List.cons_append]
        exact fun hp => hopens (List.isPrefixOf_iff_prefix.2
          (List.prefix_of_prefix_length_le hp (List.prefix_append _ _) hlength))

/-- **A text can be cut** exactly if it contains the separator. -/
@[simp] theorem includes_iff :
    t.includes separator = true ↔ separator <:+: t := by
  unfold includes
  rw [Option.isSome_iff_exists]
  constructor
  · rintro ⟨⟨before, after⟩, hcut⟩
    exact ⟨before, after, (eq_of_cut? hcut).symm⟩
  · rintro ⟨front, back, rfl⟩
    obtain ⟨before, after, hcut, -⟩ := exists_cut?_append separator front back
    exact ⟨_, hcut⟩

@[simp] theorem includes_eq_false_iff :
    t.includes separator = false ↔ ¬ separator <:+: t := by
  rw [← Bool.not_eq_true, includes_iff]

/-- What is in front of a run does not help to complete it, unless it ends
with the sign itself. -/
theorem replicate_prefix_of_append {d : CodePoint} {n : Nat} {rest : Text}
    (hne : t ≠ []) (hlast : ¬ [d] <:+ t)
    (h : List.replicate n d <+: t ++ rest) : List.replicate n d <+: t := by
  induction n generalizing t with
  | zero => exact List.nil_prefix
  | succ n ih =>
    obtain ⟨c, t, rfl⟩ := List.exists_cons_of_ne_nil hne
    rw [List.replicate_succ, List.cons_append, List.cons_prefix_cons] at h
    obtain ⟨rfl, h⟩ := h
    rw [List.replicate_succ, List.cons_prefix_cons]
    refine ⟨rfl, ih ?_ (fun hs => hlast (hs.trans (List.suffix_cons d t))) h⟩
    rintro rfl
    exact hlast (List.suffix_refl _)

/-- **A text is cut at a run of one sign** where the run was put exactly if the
part before neither contains the run nor ends with the sign. -/
theorem cut?_append_replicate_iff {d : CodePoint} {n : Nat} (hn : n ≠ 0)
    (front back : Text) :
    cut? (List.replicate n d) (front ++ List.replicate n d ++ back)
        = some (front, back)
      ↔ ¬ List.replicate n d <:+: front ∧ ¬ [d] <:+ front := by
  constructor
  · intro h
    -- a place further ahead would have been found first
    have hfirst : ∀ ahead rest, front ++ List.replicate n d ++ back
          = ahead ++ List.replicate n d ++ rest →
        front.length ≤ ahead.length := by
      intro ahead rest heq
      obtain ⟨before, after, hcut, hlength⟩ :=
        exists_cut?_append (List.replicate n d) ahead rest
      rw [← heq, h] at hcut
      obtain ⟨rfl, -⟩ := Prod.mk.inj (Option.some.inj hcut)
      exact hlength
    constructor
    · rintro ⟨ahead, more, rfl⟩
      have hlength := hfirst ahead (more ++ List.replicate n d ++ back)
        (by simp only [List.append_assoc])
      simp only [List.length_append, List.length_replicate] at hlength
      omega
    · rintro ⟨ahead, rfl⟩
      have hlength := hfirst ahead (d :: back) (by
        rw [List.append_assoc ahead, List.singleton_append,
          ← List.replicate_succ, List.replicate_succ', List.append_assoc,
          List.append_assoc, List.append_assoc, List.singleton_append])
      rw [List.length_append, List.length_singleton] at hlength
      exact Nat.not_succ_le_self _ hlength
  · rintro ⟨hsep, hlast⟩
    induction front with
    | nil =>
      exact cut?_append (fun h => hn ((List.replicate_eq_nil_iff _).1 h)) back
    | cons c front ih =>
      have hprefix : ¬ (List.replicate n d).isPrefixOf
          (c :: (front ++ (List.replicate n d ++ back))) = true := by
        rw [List.isPrefixOf_iff_prefix, ← List.cons_append]
        exact fun h => hsep
          (replicate_prefix_of_append (List.cons_ne_nil _ _) hlast h).isInfix
      rw [List.append_assoc] at ih ⊢
      rw [List.cons_append, cut?, if_neg hprefix,
        ih (fun h => hsep (h.trans (List.suffix_cons c front).isInfix))
          (fun h => hlast (h.trans (List.suffix_cons c front)))]
      rfl

end Lexicon.Text
