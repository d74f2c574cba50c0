import Lexicon.FileTree.Basic

/-!
# The view of a tree

What a tree shows at each place is nothing, a directory or a plain file. This
view hides how the tree is built, and the three changes that an operation on
files can make are told by it: `kind?_put_file` and `kind?_put_dir` change the
view at the place that was written and nowhere else, and `kind?_remove` takes
a plain file out of it.
-/

namespace Lexicon

/-- **What stands at a place**, without what is below it. -/
inductive Kind where
  /-- A directory. -/
  | dir
  /-- A plain file. -/
  | file (file : File)
  deriving DecidableEq

namespace FileTree

/-- The kind of a tree at its top. -/
def topKind : FileTree → Kind
  | .dir _ => .dir
  | .file f => .file f

/-- **The view of a tree**: the kind of what stands at a place. -/
def kind? (t : FileTree) (place : Place) : Option Kind :=
  (t.lookup place).map topKind

/-! ## Entries -/

@[simp] theorem child?_cons_self (entries : List (Text × FileTree)) (name : Text)
    (t : FileTree) : child? ((name, t) :: entries) name = some t := by
  simp [child?]

@[simp] theorem child?_cons_of_ne {entries : List (Text × FileTree)} {name other : Text}
    {t : FileTree} (h : other ≠ name) :
    child? ((name, t) :: entries) other = child? entries other := by
  simp [child?, List.lookup_cons, beq_false_of_ne h]

@[simp] theorem child?_without_self (entries : List (Text × FileTree)) (name : Text) :
    child? (without entries name) name = none := by
  induction entries with
  | nil => rfl
  | cons e rest ih =>
    unfold without
    rw [List.filter_cons]
    split
    · rename_i h
      rw [← without, child?_cons_of_ne, ih]
      simpa using (bne_iff_ne.1 h).symm
    · exact ih

@[simp] theorem child?_without_of_ne {entries : List (Text × FileTree)}
    {name other : Text} (h : other ≠ name) :
    child? (without entries name) other = child? entries other := by
  induction entries with
  | nil => rfl
  | cons e rest ih =>
    obtain ⟨n, t⟩ := e
    unfold without
    rw [List.filter_cons]
    by_cases hn : n = name
    · subst hn
      rw [if_neg (by simp), child?_cons_of_ne h]
      exact ih
    · rw [if_pos (by simpa using hn)]
      by_cases ho : other = n
      · subst ho
        rw [child?_cons_self, child?_cons_self]
      · rw [child?_cons_of_ne ho, child?_cons_of_ne ho]
        exact ih

/-- A name is listed exactly if it has an entry. -/
@[simp] theorem mem_names_dir {entries : List (Text × FileTree)} {name : Text} :
    name ∈ (FileTree.dir entries).names ↔ (child? entries name).isSome := by
  rw [names, Text.mem_sortNames]
  induction entries with
  | nil => simp [child?]
  | cons e rest ih =>
    obtain ⟨n, t⟩ := e
    rw [List.map_cons, List.mem_cons]
    by_cases h : name = n
    · subst h
      simp [child?_cons_self]
    · rw [child?_cons_of_ne h, ← ih]
      simp [h]

/-! ## Places -/

@[simp] theorem lookup_nil (t : FileTree) : t.lookup [] = some t := by
  cases t <;> rfl

@[simp] theorem lookup_file_cons (f : File) (name : Text) (place : Place) :
    (FileTree.file f).lookup (name :: place) = none := rfl

@[simp] theorem lookup_dir_cons (entries : List (Text × FileTree)) (name : Text)
    (place : Place) :
    (FileTree.dir entries).lookup (name :: place)
      = (child? entries name).bind (·.lookup place) := by
  rw [lookup]
  cases child? entries name <;> rfl

/-- **Looking up goes on from what stands on the way.** -/
theorem lookup_append (t : FileTree) (p q : Place) :
    t.lookup (p ++ q) = (t.lookup p).bind (·.lookup q) := by
  induction p generalizing t with
  | nil => simp
  | cons name rest ih =>
    cases t with
    | file f => simp
    | dir entries =>
      rw [List.cons_append, lookup_dir_cons, lookup_dir_cons]
      cases child? entries name with
      | none => rfl
      | some s => exact ih s

theorem lookup_above {t s : FileTree} {p q : Place} (hq : q ≠ [])
    (h : t.lookup (p ++ q) = some s) : ∃ entries, t.lookup p = some (.dir entries) := by
  rw [lookup_append] at h
  obtain ⟨r, hr, hs⟩ := Option.bind_eq_some_iff.1 h
  obtain ⟨name, rest, rfl⟩ := List.exists_cons_of_ne_nil hq
  cases r with
  | file f => simp at hs
  | dir entries => exact ⟨entries, hr⟩

theorem mem_names_iff {t : FileTree} {entries : List (Text × FileTree)}
    {p : Place} (h : t.lookup p = some (.dir entries)) {name : Text} :
    name ∈ (FileTree.dir entries).names ↔ (t.kind? (p ++ [name])).isSome := by
  rw [mem_names_dir, kind?, lookup_append, h, Option.bind_some, lookup_dir_cons]
  cases child? entries name <;> simp

/-! ## Changes -/

/-- What is put at an entry of a directory stands there. -/
theorem lookup_put_below {t : FileTree} {entries : List (Text × FileTree)}
    {p : Place} (h : t.lookup p = some (.dir entries)) (name : Text)
    (new : FileTree) (q : Place) :
    (t.put (p ++ [name]) new).lookup (p ++ name :: q) = new.lookup q := by
  induction p generalizing t with
  | nil =>
    obtain rfl : t = .dir entries := by simpa using h
    rw [List.nil_append, List.nil_append, put, lookup_dir_cons,
      child?_cons_self, Option.bind_some]
    cases hc : (child? entries name).getD (.dir []) <;> rw [put]
  | cons n rest ih =>
    cases t with
    | file f => simp at h
    | dir es =>
      rw [lookup_dir_cons] at h
      obtain ⟨s, hs, hl⟩ := Option.bind_eq_some_iff.1 h
      rw [List.cons_append, List.cons_append, put, lookup_dir_cons,
        child?_cons_self, Option.bind_some, hs, Option.getD_some]
      exact ih hl

/-- Putting something at an entry of a directory changes the view nowhere else
than there and below. -/
theorem kind?_put_of_not_below {t : FileTree}
    {entries : List (Text × FileTree)} {p : Place}
    (h : t.lookup p = some (.dir entries)) (name : Text) (new : FileTree)
    {q : Place} (hq : ¬ (p ++ [name]) <+: q) :
    (t.put (p ++ [name]) new).kind? q = t.kind? q := by
  induction p generalizing t q with
  | nil =>
    obtain rfl : t = .dir entries := by simpa using h
    rw [List.nil_append, put]
    cases q with
    | nil => rfl
    | cons m rest =>
      have hm : m ≠ name := by
        rintro rfl
        exact hq (by simp)
      rw [kind?, kind?, lookup_dir_cons, lookup_dir_cons,
        child?_cons_of_ne hm, child?_without_of_ne hm]
  | cons n rest ih =>
    cases t with
    | file f => simp at h
    | dir es =>
      rw [lookup_dir_cons] at h
      obtain ⟨s, hs, hl⟩ := Option.bind_eq_some_iff.1 h
      rw [List.cons_append, put, hs, Option.getD_some]
      cases q with
      | nil => rfl
      | cons m more =>
        rw [kind?, kind?, lookup_dir_cons, lookup_dir_cons]
        by_cases hm : m = n
        · subst hm
          rw [child?_cons_self, hs, Option.bind_some, Option.bind_some]
          exact ih hl fun hp => hq (by simpa using hp)
        · rw [child?_cons_of_ne hm, child?_without_of_ne hm]

/-- **Writing a plain file changes the view at its place and nowhere else**,
where no directory stood. -/
theorem kind?_put_file {t : FileTree} {entries : List (Text × FileTree)}
    {p : Place} (h : t.lookup p = some (.dir entries)) {name : Text}
    (hn : t.kind? (p ++ [name]) ≠ some .dir) (f : File) (q : Place) :
    (t.put (p ++ [name]) (.file f)).kind? q
      = if q = p ++ [name] then some (.file f) else t.kind? q := by
  by_cases hq : (p ++ [name]) <+: q
  · obtain ⟨r, rfl⟩ := hq
    rw [List.append_assoc, List.singleton_append, kind?, lookup_put_below h]
    cases r with
    | nil => simp [topKind]
    | cons m rest =>
      rw [if_neg (by simp), lookup_file_cons, kind?]
      cases hs : t.lookup (p ++ name :: m :: rest) with
      | none => rfl
      | some s =>
        have ha : t.lookup ((p ++ [name]) ++ m :: rest) = some s := by
          simpa using hs
        obtain ⟨es, he⟩ := lookup_above (by simp) ha
        exact absurd (by rw [kind?, he]; rfl) hn
  · rw [kind?_put_of_not_below h name _ hq, if_neg]
    rintro rfl
    exact hq (List.prefix_refl _)

/-- **Making a directory changes the view at its place and nowhere else**,
where nothing stood. -/
theorem kind?_put_dir {t : FileTree} {entries : List (Text × FileTree)}
    {p : Place} (h : t.lookup p = some (.dir entries)) {name : Text}
    (hn : t.kind? (p ++ [name]) = none) (q : Place) :
    (t.put (p ++ [name]) (.dir [])).kind? q
      = if q = p ++ [name] then some .dir else t.kind? q := by
  by_cases hq : (p ++ [name]) <+: q
  · obtain ⟨r, rfl⟩ := hq
    rw [List.append_assoc, List.singleton_append, kind?, lookup_put_below h]
    cases r with
    | nil => simp [topKind]
    | cons m rest =>
      rw [if_neg (by simp), lookup_dir_cons, kind?]
      cases hs : t.lookup (p ++ name :: m :: rest) with
      | none => rfl
      | some s =>
        have ha : t.lookup ((p ++ [name]) ++ m :: rest) = some s := by
          simpa using hs
        obtain ⟨es, he⟩ := lookup_above (by simp) ha
        rw [kind?, he] at hn
        simp at hn
  · rw [kind?_put_of_not_below h name _ hq, if_neg]
    rintro rfl
    exact hq (List.prefix_refl _)

/-- **Removing takes what stands at a place out of the view**, with everything
below it, and changes nothing else. -/
theorem kind?_remove (t : FileTree) {p : Place} (hp : p ≠ []) (q : Place) :
    (t.remove p).kind? q = if p <+: q then none else t.kind? q := by
  induction p generalizing t q with
  | nil => exact absurd rfl hp
  | cons n rest ih =>
    cases t with
    | file f =>
      rw [remove]
      cases q with
      | nil => simp
      | cons m more => simp [kind?]
    | dir es =>
      cases q with
      | nil =>
        cases rest with
        | nil => simp [remove, kind?, topKind]
        | cons n' rest' =>
          rw [remove]
          split <;> simp [kind?, topKind]
      | cons m more =>
        by_cases hm : m = n
        · subst hm
          cases rest with
          | nil =>
            rw [remove, kind?, lookup_dir_cons, child?_without_self]
            simp
          | cons n' rest' =>
            rw [remove]
            cases hs : child? es m with
            | none =>
              simp [kind?, lookup_dir_cons, hs]
            | some s =>
              have hc := ih s (by simp) more
              simp only [kind?] at hc
              simp only [kind?, lookup_dir_cons, child?_cons_self, hs,
                Option.bind_some, hc, List.cons_prefix_cons, true_and]
        · have hpre : ¬ (n :: rest) <+: (m :: more) := by
            simp [Ne.symm hm]
          rw [if_neg hpre]
          cases rest with
          | nil =>
            rw [remove, kind?, kind?, lookup_dir_cons, lookup_dir_cons,
              child?_without_of_ne hm]
          | cons n' rest' =>
            rw [remove]
            cases hs : child? es n with
            | none => rfl
            | some s =>
              simp only []
              rw [kind?, kind?, lookup_dir_cons, lookup_dir_cons,
                child?_cons_of_ne hm, child?_without_of_ne hm]

end FileTree

end Lexicon
