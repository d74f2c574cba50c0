import Lexicon.Proofs.FileTree.Changes
import Lexicon.Proofs.Path.Names
import Lexicon.Proofs.Volume.Node

/-!
# Making directories

What making a directory leaves behind when the directory two levels up is
there: at most the directory and the one above it are new, and it is there in
the end unless its name is too long or a plain file is in the way
(`makeDirs_child_child`). Whatever goes wrong is a refusal of the system.
-/

namespace Lexicon.Volume

variable {v : Volume} {p : Path} {a b : Text} {above : Place}

theorem node_of_locate {place : Place} (hi : v.denied.inspect p = false)
    (hc : p.check = .ok ()) (hl : v.tree.locate p = .ok place) :
    v.node p = match v.tree.lookup place with
      | none => .error .notFound
      | some t => .ok t := by
  unfold node
  rw [hi, hc, hl]
  rfl

/-- **Whether an entry is a directory** is told by the view, whatever stands
above it. The length of its name matters in a directory only. -/
theorem isDir_child (hi : v.denied.inspect (p.child a) = false)
    (hc : (p.child a).check = .ok ()) (hl : v.tree.locate p = .ok above)
    (hn : a ≠ Path.dotDot)
    (hs : v.tree.kind? above = some .dir → Path.isTooLong a = false) :
    v.isDir (p.child a) = .ok
      (decide (v.tree.kind? (above ++ [Utf8.respell a]) = some .dir)) := by
  unfold isDir isKind
  by_cases hd : v.tree.kind? above = some .dir
  · rw [node_of_locate hi hc
      ((FileTree.locate_child_eq_ok_iff hn).2 ⟨above, hl, hd, hs hd, rfl⟩)]
    unfold FileTree.kind?
    rcases v.tree.lookup (above ++ [Utf8.respell a]) with - | (f | es) <;> rfl
  · have hno : v.tree.kind? (above ++ [Utf8.respell a]) ≠ some .dir :=
      fun h => hd (FileTree.kind?_above (List.cons_ne_nil _ _) h)
    rw [decide_eq_false hno]
    cases he : v.tree.checkDir above with
    | ok u => exact absurd (FileTree.checkDir_eq_ok_iff.1 he) hd
    | error e =>
      have hloc : v.tree.locate (p.child a) = .error e := by
        rw [FileTree.locate_child, hl]
        show v.tree.walk above [a] = _
        unfold FileTree.walk
        rw [he]
      have hnode : v.node (p.child a) = .error e :=
        node_eq_error_iff.2 (Or.inr ⟨hi, Or.inr ⟨hc, Or.inl hloc⟩⟩)
      rw [hnode]
      dsimp only
      rw [if_pos (FileTree.meansAbsent_of_checkDir he)]

/-- Whether an entry is a directory cannot be told of a name that is too
long. -/
theorem isDir_child_of_isTooLong (hi : v.denied.inspect (p.child a) = false)
    (hc : (p.child a).check = .ok ()) (hl : v.tree.locate p = .ok above)
    (hn : a ≠ Path.dotDot) (hd : v.tree.kind? above = some .dir)
    (hs : Path.isTooLong a = true) :
    v.isDir (p.child a) = .error .nameTooLong := by
  rw [isDir, isKind_eq_error_iff]
  refine ⟨node_eq_error_iff.2 (Or.inr ⟨hi, Or.inr ⟨hc, Or.inl ?_⟩⟩), rfl⟩
  exact FileTree.locate_child_of_isTooLong hn hl hd hs

/-- A directory that could not be made is excused exactly if it is there. -/
theorem excuse_of_isDir {e : FileError} {d : Bool} (he : e.isSystem = true)
    (hd : v.isDir p = .ok d) :
    v.excuse p e = if d then .ok () else .error e := by
  unfold excuse
  rw [if_pos he, hd]
  cases d <;> rfl

/-- A directory that could not be made is not excused if nothing can be told
about it. -/
theorem excuse_of_isDir_error {e e' : FileError} (he : e.isSystem = true)
    (hd : v.isDir p = .error e') : v.excuse p e = .error e' := by
  unfold excuse
  rw [if_pos he, hd]

theorem child_of_reverse (p : Path) (a : Text) :
    (⟨p.anchor, (a :: p.parts.reverse).reverse⟩ : Path) = p.child a := by
  rw [List.reverse_cons, List.reverse_reverse]
  rfl

/-- An entry is made as the innermost of what may be missing. -/
theorem makeDirs_child (v : Volume) (p : Path) (a : Text) :
    v.makeDirs (p.child a)
      = v.makeDirsBelow p.anchor (984 + 1) (a :: p.parts.reverse) := by
  unfold makeDirs
  rw [Path.child, List.reverse_append, List.reverse_singleton]
  rfl

/-- **Where something stands** in a directory that is there, no directory is
made. -/
theorem makeDirsBelow_of_there (left : Nat)
    (hi : v.denied.inspect (p.child a) = false) (hc : (p.child a).check = .ok ())
    (hl : v.tree.locate p = .ok above) (hd : v.tree.kind? above = some .dir)
    (hn : a ≠ Path.dotDot) (hs : Path.isTooLong a = false)
    (hthere : v.tree.kind? (above ++ [Utf8.respell a]) ≠ none) :
    v.makeDirsBelow p.anchor (left + 1) (a :: p.parts.reverse)
      = (v.tree,
        if decide (v.tree.kind? (above ++ [Utf8.respell a]) = some .dir) then
          .ok () else .error .alreadyExists) := by
  have hmake := FileTree.makeDir_child hn hc hl hd hs
  obtain ⟨s, hk⟩ := Option.ne_none_iff_exists'.1
    (mt FileTree.kind?_eq_none_iff.2 hthere)
  rw [hk] at hmake
  unfold makeDirsBelow
  dsimp only
  rw [child_of_reverse, hmake]
  dsimp only
  rw [excuse_of_isDir rfl (isDir_child hi hc hl hn fun _ => hs)]

/-- **A directory is made where the directory above it is there**, unless a
plain file is in the way. What already stands there has to be asked about. -/
theorem makeDirsBelow_child (left : Nat)
    (hi : v.tree.kind? (above ++ [Utf8.respell a]) ≠ none →
      v.denied.inspect (p.child a) = false)
    (hc : (p.child a).check = .ok ()) (hl : v.tree.locate p = .ok above)
    (hd : v.tree.kind? above = some .dir) (hn : a ≠ Path.dotDot)
    (hs : Path.isTooLong a = false) :
    ∃ t result,
      v.makeDirsBelow p.anchor (left + 1) (a :: p.parts.reverse) = (t, result)
        ∧ v.tree.Gains t (· = above ++ [Utf8.respell a])
        ∧ (∀ e, result = .error e → e.isSystem = true)
        ∧ ((∀ f, v.tree.kind? (above ++ [Utf8.respell a]) ≠ some (.file f)) →
          t.kind? (above ++ [Utf8.respell a]) = some .dir
            ∧ result = .ok ()) := by
  by_cases hthere : v.tree.kind? (above ++ [Utf8.respell a]) = none
  · have hmake := FileTree.makeDir_child hn hc hl hd hs
    rw [FileTree.kind?_eq_none_iff.1 hthere] at hmake
    obtain ⟨hgains, hdir⟩ := FileTree.gains_of_makeDir hmake
      ((FileTree.locate_child_eq_ok_iff hn).2 ⟨above, hl, hd, hs, rfl⟩)
    unfold makeDirsBelow
    dsimp only
    rw [child_of_reverse, hmake]
    exact ⟨_, _, rfl, hgains, fun e he => absurd he (by simp),
      fun _ => ⟨hdir, rfl⟩⟩
  · refine ⟨_, _, makeDirsBelow_of_there left (hi hthere) hc hl hd hn hs hthere,
      FileTree.Gains.refl _ _, fun e he => ?_, fun hf => ?_⟩
    · split at he
      · exact absurd he (by simp)
      · rw [← Except.error.inj he]
        rfl
    · obtain ⟨_ | f, hk⟩ := Option.ne_none_iff_exists'.1 hthere
      · exact ⟨hk, if_pos (decide_eq_true hk)⟩
      · exact absurd hk (hf f)

/-! ## Two directories, one in the other -/

section

variable (hi : v.denied.inspect ((p.child a).child b) = false)
  (hc : ((p.child a).child b).check = .ok ())
  (hl : v.tree.locate p = .ok above) (hd : v.tree.kind? above = some .dir)
  (ha : a ≠ Path.dotDot) (hb : b ≠ Path.dotDot)
  (hsa : Path.isTooLong a = false)
include hc hl ha hsa

/-- **In a directory that is missing**, a directory is made after that one,
where nothing stands yet. -/
theorem makeDirsBelow_of_missing (hd : v.tree.kind? above = some .dir)
    (left : Nat) (hnone : v.tree.kind? (above ++ [Utf8.respell a]) = none) :
    ∃ t, v.tree.Gains t (· = above ++ [Utf8.respell a])
      ∧ t.kind? (above ++ [Utf8.respell a]) = some .dir
      ∧ t.kind? (above ++ [Utf8.respell a] ++ [Utf8.respell b]) = none
      ∧ (∀ t', t.makeDir ((p.child a).child b) = .ok t' →
        v.makeDirsBelow (p.child a).anchor (left + 1 + 1)
          (b :: (p.child a).parts.reverse) = (t', .ok ()))
      ∧ (t.makeDir ((p.child a).child b) = .error .nameTooLong →
        v.makeDirsBelow (p.child a).anchor (left + 1 + 1)
          (b :: (p.child a).parts.reverse)
            = (t, (v.withTree t).excuse ((p.child a).child b) .nameTooLong)) := by
  have hla := (FileTree.locate_child_eq_ok_iff (t := v.tree) ha).2
    ⟨above, hl, hd, hsa, rfl⟩
  have hcheck := FileTree.checkDir_eq_notFound_iff.2 hnone
  have hfirst := FileTree.makeDir_child_of_checkDir hc hla hcheck
  obtain ⟨t, result, hmake, hgains, -, hdone⟩ := makeDirsBelow_child left
    (absurd hnone) (Path.check_of_check_child hc) hl hd ha hsa
  obtain ⟨hdir, rfl⟩ := hdone fun f hf => by
    rw [hnone] at hf
    exact absurd hf (by simp)
  have hfree : t.kind? (above ++ [Utf8.respell a] ++ [Utf8.respell b])
      = none := by
    obtain he | ⟨-, -, hq⟩ :=
      hgains (above ++ [Utf8.respell a] ++ [Utf8.respell b])
    · rw [he]
      by_contra hsome
      obtain ⟨k, hk⟩ := Option.ne_none_iff_exists'.1 hsome
      have habove := FileTree.kind?_above (List.cons_ne_nil _ _) hk
      rw [hnone] at habove
      exact absurd habove (by simp)
    · exact absurd hq (by simp)
  have hrev : (p.child a).parts.reverse = a :: p.parts.reverse := by
    rw [Path.child, List.reverse_append, List.reverse_singleton]
    rfl
  refine ⟨t, hgains, hdir, hfree, fun t' hinner => ?_, fun hinner => ?_⟩
  all_goals
    rw [makeDirsBelow, child_of_reverse, hfirst, hrev]
    dsimp only
    rw [show (p.child a).anchor = p.anchor from rfl, hmake]
    dsimp only
    rw [hinner]

include hi hb

/-- **Below a plain file** no directory is made. -/
theorem makeDirsBelow_of_blocked (left : Nat) {f : File}
    (hf : v.tree.kind? (above ++ [Utf8.respell a]) = some (.file f)) :
    v.makeDirsBelow (p.child a).anchor (left + 1) (b :: (p.child a).parts.reverse)
      = (v.tree, .error .notDirectory) := by
  have hd := FileTree.kind?_above (List.cons_ne_nil _ _) hf
  have hla := (FileTree.locate_child_eq_ok_iff (t := v.tree) ha).2
    ⟨above, hl, hd, hsa, rfl⟩
  have hcheck : v.tree.checkDir (above ++ [Utf8.respell a])
      = .error .notDirectory := by
    rw [FileTree.checkDir, FileTree.kind?_eq_file_iff.1 hf]
  have hno : v.tree.kind? (above ++ [Utf8.respell a] ++ [Utf8.respell b])
      ≠ some .dir := by
    rw [FileTree.kind?_below_file hf (List.cons_ne_nil _ _)]
    simp
  rw [makeDirsBelow, child_of_reverse,
    FileTree.makeDir_child_of_checkDir hc hla hcheck]
  dsimp only
  rw [excuse_of_isDir rfl (isDir_child hi hc hla hb fun hdir => by
      rw [hf] at hdir
      exact absurd hdir (by simp)),
    decide_eq_false hno]
  rfl

include hd

/-- **Two directories, one in the other, are made where the directory above
them is there**, unless a plain file is in the way. The inner one is not made
if its name is too long, and it has to be asked about where the outer one
stands already. -/
theorem makeDirs_child_child
    (hsb : v.tree.kind? (above ++ [Utf8.respell a]) = some .dir →
      Path.isTooLong b = false) :
    ∃ t result, v.makeDirs ((p.child a).child b) = (t, result)
      ∧ v.tree.Gains t (fun q => q = above ++ [Utf8.respell a]
        ∨ q = above ++ [Utf8.respell a] ++ [Utf8.respell b])
      ∧ (∀ e, result = .error e → e.isSystem = true)
      ∧ t.kind? (above ++ [Utf8.respell a]) ≠ none
      ∧ (Path.isTooLong b = false →
        (∀ f, v.tree.kind? (above ++ [Utf8.respell a]) ≠ some (.file f)) →
        (∀ f, v.tree.kind? (above ++ [Utf8.respell a] ++ [Utf8.respell b])
          ≠ some (.file f)) →
        t.kind? (above ++ [Utf8.respell a] ++ [Utf8.respell b]) = some .dir
          ∧ result = .ok ()) := by
  have hla := (FileTree.locate_child_eq_ok_iff (t := v.tree) ha).2
    ⟨above, hl, hd, hsa, rfl⟩
  rw [makeDirs_child]
  rcases hk : v.tree.kind? (above ++ [Utf8.respell a]) with - | (- | f)
  · obtain ⟨t, hgains, hdir, hfree, hmade, hrefused⟩ :=
      makeDirsBelow_of_missing (b := b) hc hl ha hsa hd 983 hk
    have hlt := FileTree.locate_mono hgains.keepsDirs hla
    by_cases hlong : Path.isTooLong b = true
    · -- the outer one remains
      rw [hrefused (FileTree.makeDir_child_of_isTooLong hb hc hlt hdir hlong),
        excuse_of_isDir_error rfl
          (isDir_child_of_isTooLong (v := v.withTree t) hi hc hlt hb hdir hlong)]
      refine ⟨t, _, rfl, hgains.mono fun q hq => Or.inl hq, fun e he => ?_,
        by rw [hdir]; simp, fun hs => absurd hs (by rw [hlong]; simp)⟩
      rw [← Except.error.inj he]
      rfl
    · have hs := Bool.eq_false_iff.2 hlong
      have hinner := FileTree.makeDir_child hb hc hlt hdir hs
      rw [FileTree.kind?_eq_none_iff.1 hfree] at hinner
      obtain ⟨hgains', hdir'⟩ := FileTree.gains_of_makeDir hinner
        ((FileTree.locate_child_eq_ok_iff hb).2 ⟨_, hlt, hdir, hs, rfl⟩)
      rw [hmade _ hinner]
      refine ⟨_, _, rfl, (hgains.mono fun q hq => Or.inl hq).trans
        (hgains'.mono fun q hq => Or.inr hq), fun e he => absurd he (by simp),
        ?_, fun _ _ _ => ⟨hdir', rfl⟩⟩
      rw [hgains'.kind?_eq hdir]
      simp
  · obtain ⟨t, result, hmake, hgains, hsys, hdone⟩ :=
      makeDirsBelow_child 984 (fun _ => hi) hc hla hk hb (hsb hk)
    refine ⟨t, result, hmake, hgains.mono fun q hq => Or.inr hq, hsys, ?_,
      fun _ _ hf => hdone hf⟩
    rw [hgains.kind?_eq hk]
    simp
  · refine ⟨_, _, makeDirsBelow_of_blocked hi hc hl ha hb hsa 984 hk,
      FileTree.Gains.refl _ _, fun e he => ?_, by rw [hk]; simp,
      fun _ hf => absurd rfl (hf f)⟩
    rw [← Except.error.inj he]
    rfl

end

end Lexicon.Volume
