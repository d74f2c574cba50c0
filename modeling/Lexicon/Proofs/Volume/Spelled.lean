import Lexicon.Proofs.Volume.Entries

/-!
# Listings of spelled trees

In a tree whose names are spelled as directories show them, a listed name leads
to the entry that it is listed for. Then one condition says all that a listing
shows under a name (`Volume.HasEntry`): the denials that it meets and what
stands there. Two volumes whose conditions agree at a path have the same
listings there (`Volume.filesIn_congr`, `Volume.dirsIn_congr`).
-/

namespace Lexicon

namespace FileTree

/-- **Every name of a tree leads to its own entry**: it is spelled as its bytes
are shown and does not lead upward. -/
def IsSpelled (t : FileTree) : Prop :=
  ∀ place name, t.kind? (place ++ [name]) ≠ none →
    name ≠ Path.dotDot ∧ Utf8.respell name = name

/-! A tree that is spelled can be told by going through its entries. -/

mutual

/-- Whether every name of a tree leads to its own entry. -/
def hasSpelledNames : FileTree → Bool
  | .file _ => true
  | .dir entries => haveSpelledNames entries

/-- Whether every name of some entries, and of the trees there, does. -/
def haveSpelledNames : List (Text × FileTree) → Bool
  | [] => true
  | (name, t) :: rest =>
    name != Path.dotDot && Utf8.respell name == name && t.hasSpelledNames
      && haveSpelledNames rest

end

/-- Every entry of a list that passes does. -/
theorem of_haveSpelledNames {entries : List (Text × FileTree)} {name : Text}
    {t : FileTree} (h : haveSpelledNames entries = true)
    (ht : child? entries name = some t) :
    (name ≠ Path.dotDot ∧ Utf8.respell name = name)
      ∧ t.hasSpelledNames = true := by
  induction entries with
  | nil => exact absurd ht (by simp [child?])
  | cons e rest ih =>
    obtain ⟨n, s⟩ := e
    rw [haveSpelledNames, Bool.and_eq_true, Bool.and_eq_true, Bool.and_eq_true,
      bne_iff_ne, beq_iff_eq] at h
    obtain ⟨⟨hname, hs⟩, hrest⟩ := h
    by_cases hn : name = n
    · subst hn
      rw [child?_cons_self] at ht
      obtain rfl := Option.some.inj ht
      exact ⟨hname, hs⟩
    · rw [child?_cons_of_ne hn] at ht
      exact ih hrest ht

/-- **A tree whose names pass is spelled.** -/
theorem isSpelled_of_hasSpelledNames {t : FileTree}
    (h : t.hasSpelledNames = true) : t.IsSpelled := by
  intro place name hthere
  induction place generalizing t with
  | nil =>
    cases t with
    | file f => exact absurd rfl hthere
    | dir entries =>
      rw [List.nil_append, Ne, kind?_eq_none_iff, lookup_dir_cons] at hthere
      obtain ⟨s, hs⟩ := Option.ne_none_iff_exists'.1 hthere
      obtain ⟨s', hs', -⟩ := Option.bind_eq_some_iff.1 hs
      rw [hasSpelledNames] at h
      exact (of_haveSpelledNames h hs').1
  | cons outer rest ih =>
    cases t with
    | file f => exact absurd rfl hthere
    | dir entries =>
      rw [List.cons_append, Ne, kind?_eq_none_iff, lookup_dir_cons] at hthere
      obtain ⟨s, hs⟩ := Option.ne_none_iff_exists'.1 hthere
      obtain ⟨s', hs', hl⟩ := Option.bind_eq_some_iff.1 hs
      rw [hasSpelledNames] at h
      refine ih (of_haveSpelledNames h hs').2 ?_
      rw [Ne, kind?_eq_none_iff, hl]
      exact Option.some_ne_none s

end FileTree

namespace Volume

variable {v u : Volume} {p : Path} {name : Text} {k : Kind} {f : File}

/-- **A directory shows something under a name**: it may be listed, both it and
the entry may be asked about and reach the system, and that stands there. -/
structure HasEntry (v : Volume) (p : Path) (name : Text) (k : Kind) :
    Prop where
  /-- The directory may be listed. -/
  listable : v.denied.list p = false
  /-- The directory may be asked about. -/
  inspectable : v.denied.inspect p = false
  /-- So may the entry. -/
  inspectable_child : v.denied.inspect (p.child name) = false
  /-- The path of the directory reaches the system. -/
  check : p.check = .ok ()
  /-- So does that of the entry. -/
  check_child : (p.child name).check = .ok ()
  /-- The name is not too long. -/
  short : Path.isTooLong name = false
  /-- It stands there. -/
  stands : ∃ place, v.tree.locate p = .ok place
    ∧ v.tree.kind? (place ++ [name]) = some k

/-- What is listed and shown by a spelled tree is what its entry is. -/
theorem hasEntry_iff (hv : v.tree.IsSpelled) :
    v.HasEntry p name k
      ↔ name ∈ v.namesIn p
        ∧ v.denied.inspect (p.child name) = false ∧ (p.child name).check = .ok ()
        ∧ ∃ place, v.tree.locate (p.child name) = .ok place
          ∧ v.tree.kind? place = some k := by
  rw [mem_namesIn_iff]
  constructor
  · rintro ⟨hlist, hi, hi', hc, hc', hs, place, hl, hk⟩
    have hthere : v.tree.kind? (place ++ [name]) ≠ none := by
      rw [hk]
      exact Option.some_ne_none k
    obtain ⟨hne, hspelled⟩ := hv place name hthere
    refine ⟨⟨hlist, hi, hc, place, hl, hthere⟩, hi', hc', place ++ [name], ?_, hk⟩
    rw [FileTree.locate_child_eq_ok_iff hne, hspelled]
    exact ⟨place, hl, FileTree.kind?_above (List.cons_ne_nil _ _) hk, hs, rfl⟩
  · rintro ⟨⟨hlist, hi, hc, place, hl, hthere⟩, hi', hc', place', hl', hk⟩
    obtain ⟨hne, hspelled⟩ := hv place name hthere
    rw [FileTree.locate_child_eq_ok_iff hne, hspelled] at hl'
    obtain ⟨above, ha, -, hs, rfl⟩ := hl'
    exact ⟨hlist, hi, hi', hc, hc', hs, above, ha, hk⟩

theorem mem_filesIn_iff_hasEntry (hv : v.tree.IsSpelled) :
    (name, f) ∈ v.filesIn p ↔ v.HasEntry p name (.file f) := by
  rw [mem_filesIn_iff, file?_eq_some_iff_kind?, hasEntry_iff hv]

theorem mem_dirsIn_iff_hasEntry (hv : v.tree.IsSpelled) :
    name ∈ v.dirsIn p ↔ v.HasEntry p name .dir := by
  unfold dirsIn
  rw [List.mem_filter, shows_isDir_iff_kind?, hasEntry_iff hv]

theorem pairwise_filesIn (v : Volume) (p : Path) :
    (v.filesIn p).Pairwise fun e e' => e.1 < e'.1 := by
  refine (pairwise_namesIn v p).filterMap _ fun name name' hlt e he e' he' => ?_
  obtain ⟨-, -, rfl⟩ := Option.map_eq_some_iff.1 he
  obtain ⟨-, -, rfl⟩ := Option.map_eq_some_iff.1 he'
  exact hlt

theorem pairwise_dirsIn (v : Volume) (p : Path) :
    (v.dirsIn p).Pairwise (· < ·) :=
  (pairwise_namesIn v p).filter _

/-- **Two directories that show the same plain files** list them alike. -/
theorem filesIn_congr (hv : v.tree.IsSpelled) (hu : u.tree.IsSpelled)
    {q : Path}
    (h : ∀ name f, u.HasEntry q name (.file f) ↔ v.HasEntry p name (.file f)) :
    u.filesIn q = v.filesIn p := by
  have : Std.Irrefl fun e e' : Text × File => e.1 < e'.1 :=
    ⟨fun e => List.lt_irrefl e.1⟩
  refine (pairwise_filesIn u q).eq_of_mem_iff (pairwise_filesIn v p) ?_
  rintro ⟨name, f⟩
  rw [mem_filesIn_iff_hasEntry hu, mem_filesIn_iff_hasEntry hv, h]

/-- **Two directories that show the same directories** list them alike. -/
theorem dirsIn_congr (hv : v.tree.IsSpelled) (hu : u.tree.IsSpelled)
    {q : Path}
    (h : ∀ name, u.HasEntry q name .dir ↔ v.HasEntry p name .dir) :
    u.dirsIn q = v.dirsIn p := by
  refine (pairwise_dirsIn u q).eq_of_mem_iff (pairwise_dirsIn v p) fun name => ?_
  rw [mem_dirsIn_iff_hasEntry hu, mem_dirsIn_iff_hasEntry hv, h]

end Volume

end Lexicon
