import Lexicon.Proofs.FileTree.Directories

/-!
# Restricting a tree

What is left of a tree if some of its entries are dropped, each with everything
below it. The view of what is left is the view of the tree at the places all of
whose beginnings are kept, and nothing elsewhere (`FileTree.kind?_restrict`).
-/

namespace Lexicon.FileTree

mutual

/-- **The tree without the entries that are not kept**, told by their places. -/
def restrict : (keep : Place → Bool) → FileTree → FileTree
  | _, .file f => .file f
  | keep, .dir entries => .dir (restrictAll keep entries)

/-- The entries that are kept, each without those below it that are not. -/
def restrictAll :
    (keep : Place → Bool) → List (Text × FileTree) → List (Text × FileTree)
  | _, [] => []
  | keep, (name, t) :: rest =>
    if keep [name] then
      (name, t.restrict fun place => keep (name :: place))
        :: restrictAll keep rest
    else restrictAll keep rest

end

/-- **Whether a place is kept**: so is everything on the way to it. -/
def IsKept (keep : Place → Bool) (place : Place) : Prop :=
  ∀ q, q ≠ [] → q <+: place → keep q = true

variable {keep : Place → Bool} {name : Text} {place : Place}

@[simp] theorem isKept_nil (keep : Place → Bool) : IsKept keep [] :=
  fun _ hne hq => absurd (List.prefix_nil.1 hq) hne

/-- A place is kept exactly if its first name is and the rest of it is below
that. -/
theorem isKept_cons_iff :
    IsKept keep (name :: place)
      ↔ keep [name] = true ∧ IsKept (fun q => keep (name :: q)) place := by
  constructor
  · intro h
    refine ⟨h [name] (List.cons_ne_nil _ _) (by simp), fun q _ hq => ?_⟩
    exact h (name :: q) (List.cons_ne_nil _ _)
      (List.cons_prefix_cons.2 ⟨rfl, hq⟩)
  · rintro ⟨hfirst, hrest⟩ q hne hq
    obtain ⟨m, q, rfl⟩ := List.exists_cons_of_ne_nil hne
    obtain ⟨rfl, hmore⟩ := List.cons_prefix_cons.1 hq
    by_cases hnil : q = []
    · rw [hnil]
      exact hfirst
    · exact hrest q hnil hmore

/-- What is kept of a directory's entries, name by name. -/
theorem child?_restrictAll (keep : Place → Bool)
    (entries : List (Text × FileTree)) (name : Text) :
    child? (restrictAll keep entries) name
      = if keep [name] then
          (child? entries name).map (restrict fun q => keep (name :: q))
        else none := by
  induction entries with
  | nil => split <;> rfl
  | cons e rest ih =>
    obtain ⟨m, t⟩ := e
    rw [restrictAll]
    by_cases hm : name = m
    · subst hm
      by_cases hk : keep [name] = true
      · rw [if_pos hk, if_pos hk, child?_cons_self, child?_cons_self]
        rfl
      · rw [if_neg hk, ih, if_neg hk, if_neg hk]
    · rw [child?_cons_of_ne hm, ← ih]
      split
      · exact child?_cons_of_ne hm
      · rfl

/-- **The view of what is left** is that of the tree where everything on the way
is kept. -/
theorem kind?_restrict_of_isKept {t : FileTree} (h : IsKept keep place) :
    (t.restrict keep).kind? place = t.kind? place := by
  induction place generalizing t keep with
  | nil => cases t <;> rfl
  | cons name rest ih =>
    cases t with
    | file f => rfl
    | dir entries =>
      obtain ⟨hfirst, hrest⟩ := isKept_cons_iff.1 h
      rw [restrict, kind?, kind?, lookup_dir_cons, lookup_dir_cons,
        child?_restrictAll, if_pos hfirst]
      cases child? entries name with
      | none => rfl
      | some s => exact ih hrest

/-- Nothing is left elsewhere. -/
theorem kind?_restrict_of_not_isKept {t : FileTree} (h : ¬ IsKept keep place) :
    (t.restrict keep).kind? place = none := by
  induction place generalizing t keep with
  | nil => exact absurd (isKept_nil keep) h
  | cons name rest ih =>
    cases t with
    | file f => rfl
    | dir entries =>
      rw [isKept_cons_iff, not_and] at h
      rw [restrict, kind?, lookup_dir_cons, child?_restrictAll]
      by_cases hfirst : keep [name] = true
      · rw [if_pos hfirst]
        cases child? entries name with
        | none => rfl
        | some s => exact ih (h hfirst)
      · rw [if_neg hfirst]
        rfl

/-- **What is left stood there, and is kept.** -/
@[simp] theorem kind?_restrict_eq_some_iff {t : FileTree} {k : Kind} :
    (t.restrict keep).kind? place = some k
      ↔ IsKept keep place ∧ t.kind? place = some k := by
  by_cases h : IsKept keep place
  · rw [kind?_restrict_of_isKept h, and_iff_right h]
  · rw [kind?_restrict_of_not_isKept h]
    exact iff_of_false (by simp) fun hk => h hk.1

end Lexicon.FileTree
