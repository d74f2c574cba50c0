import Lexicon.FileTree.Change
import Lexicon.Proofs.FileTree.Directories
import Lexicon.Proofs.Path.Names

/-!
# What changes show

The changes that a storage makes to its tree, told by the view: a plain file is
taken away, a directory or a plain file is added, a plain file is moved. Each
lemma gives the place that the change is about and the view afterwards at every
place, so that nothing else needs to know how a tree is built.
-/

namespace Lexicon.FileTree

variable {t t' : FileTree} {place : Place} {f : File}

theorem kind?_below_file (h : t.kind? place = some (.file f)) {rest : Place}
    (hr : rest ≠ []) : t.kind? (place ++ rest) = none := by
  obtain ⟨name, more, rfl⟩ := List.exists_cons_of_ne_nil hr
  rw [kind?, lookup_append, kind?_eq_file_iff.1 h]
  rfl

/-- **Taking a plain file away** takes it out of the view and nothing else. -/
theorem kind?_remove_file (h : t.kind? place = some (.file f))
    (hp : place ≠ []) (q : Place) :
    (t.remove place).kind? q = if q = place then none else t.kind? q := by
  rw [kind?_remove t hp]
  by_cases hq : q = place
  · rw [if_pos hq, hq, if_pos (List.prefix_refl _)]
  · rw [if_neg hq]
    by_cases hb : place <+: q
    · obtain ⟨rest, rfl⟩ := hb
      rw [if_pos (List.prefix_append _ _)]
      exact (kind?_below_file h fun hr => hq (by rw [hr, List.append_nil])).symm
    · rw [if_neg hb]

theorem locate_child_ne_nil {p : Path} {name : Text}
    (hn : name ≠ Path.dotDot) (h : t.locate (p.child name) = .ok place) :
    place ≠ [] := by
  obtain ⟨above, -, -, -, rfl⟩ := (locate_child_eq_ok_iff hn).1 h
  exact List.append_ne_nil_of_right_ne_nil _ (List.cons_ne_nil _ _)

/-- **A directory that was made** stands where the path leads and nothing
stood, and is all that is new. -/
theorem gains_of_makeDir {p : Path} (h : t.makeDir p = .ok t')
    (hp : t.locate p = .ok place) :
    t.Gains t' (· = place) ∧ t'.kind? place = some .dir := by
  unfold makeDir at h
  obtain ⟨⟨⟩, -, h⟩ := bind_eq_ok.1 h
  obtain ⟨above, ha, h⟩ := bind_eq_ok.1 h
  by_cases hn : p.endsNameless = true
  · rw [if_pos hn] at h
    exact absurd h throw_bind_ne_ok
  rw [if_neg hn] at h
  obtain ⟨place', hl, h⟩ := bind_eq_ok.1 h
  obtain rfl := Except.ok.inj (hp.symm.trans hl)
  obtain ⟨name, hdd, hchild⟩ :=
    exists_child_of_not_endsNameless (Bool.eq_false_iff.2 hn)
  rw [hchild] at hl
  obtain ⟨above', ha', hd, -, rfl⟩ := (locate_child_eq_ok_iff hdd).1 hl
  obtain ⟨es, hes⟩ := kind?_eq_dir_iff.1 hd
  cases hk : t.lookup (above' ++ [Utf8.respell name]) with
  | some s =>
    rw [hk] at h
    exact absurd h throw_ne_ok
  | none =>
    rw [hk] at h
    obtain rfl := Except.ok.inj h
    have hnone : t.kind? (above' ++ [Utf8.respell name]) = none := by
      rw [kind?, hk]
      rfl
    have hview := kind?_put_dir hes hnone
    refine ⟨fun q => ?_, by rw [hview, if_pos rfl]⟩
    rw [hview]
    by_cases hq : q = above' ++ [Utf8.respell name]
    · exact Or.inr ⟨by rw [hq, hnone], if_pos hq, hq⟩
    · exact Or.inl (if_neg hq)

/-- **A directory stands at a path**, and the system takes the path. -/
def HasDirAt (t : FileTree) (p : Path) : Prop :=
  p.check = .ok () ∧ ∃ place, t.locate p = .ok place ∧ t.kind? place = some .dir

/-- A directory that was made is there, and nothing else is new. -/
theorem hasDirAt_of_makeDir {p : Path} (h : t.makeDir p = .ok t') :
    t.Gains t' (fun _ => True) ∧ t'.HasDirAt p := by
  have hmake := h
  unfold makeDir at h
  obtain ⟨⟨⟩, hc, h⟩ := bind_eq_ok.1 h
  obtain ⟨-, -, h⟩ := bind_eq_ok.1 h
  by_cases hn : p.endsNameless = true
  · rw [if_pos hn] at h
    exact absurd h throw_bind_ne_ok
  rw [if_neg hn] at h
  obtain ⟨place, hl, -⟩ := bind_eq_ok.1 h
  obtain ⟨hgains, hdir⟩ := gains_of_makeDir hmake hl
  exact ⟨hgains.mono fun _ _ => trivial, hc, place,
    locate_mono hgains.keepsDirs hl, hdir⟩

/-- **Making an entry of a directory** fails exactly where something stands
already. -/
theorem makeDir_child {p : Path} {name : Text} {above : Place}
    (hn : name ≠ Path.dotDot) (hc : (p.child name).check = .ok ())
    (hl : t.locate p = .ok above) (hd : t.kind? above = some .dir)
    (hs : Path.isTooLong name = false) :
    t.makeDir (p.child name)
      = match t.lookup (above ++ [Utf8.respell name]) with
        | some _ => .error .alreadyExists
        | none => .ok (t.put (above ++ [Utf8.respell name]) (.dir [])) := by
  have hparent : t.locateParent (p.child name) = .ok above := by
    rw [locateParent_eq_ok_iff, Path.parent_child]
    exact ⟨hl, hd⟩
  have hplace : t.locate (p.child name) = .ok (above ++ [Utf8.respell name]) :=
    (locate_child_eq_ok_iff hn).2 ⟨above, hl, hd, hs, rfl⟩
  unfold makeDir
  rw [hc, hparent, Path.endsNameless_child hn, hplace]
  rfl

/-- An entry with too long a name is not made. -/
theorem makeDir_child_of_isTooLong {p : Path} {name : Text} {above : Place}
    (hn : name ≠ Path.dotDot) (hc : (p.child name).check = .ok ())
    (hl : t.locate p = .ok above) (hd : t.kind? above = some .dir)
    (hs : Path.isTooLong name = true) :
    t.makeDir (p.child name) = .error .nameTooLong := by
  have hparent : t.locateParent (p.child name) = .ok above := by
    rw [locateParent_eq_ok_iff, Path.parent_child]
    exact ⟨hl, hd⟩
  unfold makeDir
  rw [hc, hparent, Path.endsNameless_child hn,
    locate_child_of_isTooLong hn hl hd hs]
  rfl

/-- Making an entry of what is no directory fails as asking for it does. -/
theorem makeDir_child_of_checkDir {p : Path} {name : Text} {above : Place}
    {e : FileError} (hc : (p.child name).check = .ok ())
    (hl : t.locate p = .ok above) (he : t.checkDir above = .error e) :
    t.makeDir (p.child name) = .error e := by
  have hparent : t.locateParent (p.child name) = .error e := by
    unfold locateParent
    rw [Path.parent_child, hl]
    show (t.checkDir above >>= fun _ => pure above) = _
    rw [he]
    rfl
  unfold makeDir
  rw [hc, hparent]
  rfl

/-- **A plain file that was written** as an entry stands there, and this is all
that changed. -/
theorem write_child_eq_ok {p : Path} {name : Text} (hn : name ≠ Path.dotDot)
    (h : t.write (p.child name) f = .ok t') :
    (p.child name).check = .ok () ∧ Path.isTooLong name = false
      ∧ ∃ above, t.locate p = .ok above
        ∧ ∀ q, t'.kind? q
          = if q = above ++ [Utf8.respell name] then some (.file f)
            else t.kind? q := by
  unfold write at h
  obtain ⟨⟨⟩, hc, h⟩ := bind_eq_ok.1 h
  obtain ⟨place, hl, h⟩ := bind_eq_ok.1 h
  obtain ⟨above, ha, hd, hs, rfl⟩ := (locate_child_eq_ok_iff hn).1 hl
  obtain ⟨es, hes⟩ := kind?_eq_dir_iff.1 hd
  have hput : t' = t.put (above ++ [Utf8.respell name]) (.file f)
      ∧ t.kind? (above ++ [Utf8.respell name]) ≠ some .dir := by
    unfold kind?
    rcases hk : t.lookup (above ++ [Utf8.respell name]) with - | (g | es)
    · rw [hk] at h
      exact ⟨(Except.ok.inj h).symm, by simp⟩
    · rw [hk] at h
      exact ⟨(Except.ok.inj h).symm, by simp [topKind]⟩
    · rw [hk] at h
      exact absurd h throw_ne_ok
  obtain ⟨rfl, hnd⟩ := hput
  exact ⟨hc, hs, above, ha, fun q => kind?_put_file hes hnd f q⟩

/-- **A plain file is written over** where one stands. -/
theorem write_child_of_file {p : Path} {name : Text} {g : File}
    (hn : name ≠ Path.dotDot) (hc : (p.child name).check = .ok ())
    (hl : t.locate (p.child name) = .ok place)
    (hk : t.kind? place = some (.file g)) (f : File) :
    ∃ t', t.write (p.child name) f = .ok t'
      ∧ ∀ q, t'.kind? q = if q = place then some (.file f) else t.kind? q := by
  have hwrite : t.write (p.child name) f = .ok (t.put place (.file f)) := by
    unfold write
    rw [hc, hl]
    dsimp only [Bind.bind, Except.bind]
    rw [kind?_eq_file_iff.1 hk]
    rfl
  obtain ⟨-, -, above, ha, hview⟩ := write_child_eq_ok hn hwrite
  obtain ⟨above', ha', -, -, rfl⟩ := (locate_child_eq_ok_iff hn).1 hl
  obtain rfl := Except.ok.inj (ha.symm.trans ha')
  exact ⟨_, hwrite, hview⟩

/-- **A plain file is all that is new** in a tree, at a place where nothing
stood. -/
structure Adds (t t' : FileTree) (place : Place) (f : File) : Prop where
  /-- Nothing stood there. -/
  free : t.kind? place = none
  /-- The file stands there now, and nothing else changed. -/
  view : ∀ q, t'.kind? q = if q = place then some (.file f) else t.kind? q

namespace Adds

theorem kind?_self (h : t.Adds t' place f) : t'.kind? place = some (.file f) := by
  rw [h.view, if_pos rfl]

/-- A new plain file adds no directory and takes none away. -/
theorem keepsDirs (h : t.Adds t' place f) : t.KeepsDirs t' ∧ t'.KeepsDirs t := by
  constructor
  · intro q hq
    rw [h.view, if_neg, hq]
    rintro rfl
    rw [h.free] at hq
    exact absurd hq (by simp)
  · intro q hq
    rw [h.view] at hq
    split at hq
    · exact absurd hq (by simp)
    · exact hq

/-- A new plain file that is written over is new with what was written. -/
theorem write_child {p : Path} {name : Text} (h : t.Adds t' place f)
    (hn : name ≠ Path.dotDot) (hc : (p.child name).check = .ok ())
    (hl : t'.locate (p.child name) = .ok place) (g : File) :
    ∃ t'', t'.write (p.child name) g = .ok t'' ∧ t.Adds t'' place g := by
  obtain ⟨t'', hwrite, hview⟩ := write_child_of_file hn hc hl h.kind?_self g
  refine ⟨t'', hwrite, h.free, fun q => ?_⟩
  rw [hview, h.view]
  by_cases hq : q = place
  · rw [if_pos hq, if_pos hq]
  · rw [if_neg hq, if_neg hq, if_neg hq]

end Adds

/-- **A plain file is added** as an entry of a directory where nothing stands,
and only there. -/
theorem create_child {p : Path} {name : Text} {above : Place}
    (hn : name ≠ Path.dotDot) (hc : (p.child name).check = .ok ())
    (hl : t.locate p = .ok above) (hd : t.kind? above = some .dir)
    (hs : Path.isTooLong name = false) :
    (t.kind? (above ++ [Utf8.respell name]) ≠ none
        ∧ t.create (p.child name) = .error .alreadyExists)
      ∨ ∃ t', t.create (p.child name) = .ok t'
        ∧ t.Adds t' (above ++ [Utf8.respell name]) ⟨.bytes [], 0⟩ := by
  have hplace : t.locate (p.child name) = .ok (above ++ [Utf8.respell name]) :=
    (locate_child_eq_ok_iff hn).2 ⟨above, hl, hd, hs, rfl⟩
  unfold create
  rw [hc, hplace]
  dsimp only [Bind.bind, Except.bind]
  cases hk : t.lookup (above ++ [Utf8.respell name]) with
  | some s =>
    refine Or.inl ⟨fun hnone => ?_, rfl⟩
    rw [kind?_eq_none_iff.1 hnone] at hk
    exact absurd hk (by simp)
  | none =>
    have hnone := kind?_eq_none_iff.2 hk
    obtain ⟨es, hes⟩ := kind?_eq_dir_iff.1 hd
    exact Or.inr ⟨_, rfl, hnone, kind?_put_file hes (by rw [hnone]; simp) _⟩

/-! ## Moving a plain file -/

/-- **What stood at one place put at another**, once a rename has found the
two. -/
def replace (t moved : FileTree) (old new : Place) :
    Except FileError FileTree := do
  if old = new then return t
  if old.isPrefixOf new then throw .invalid
  if new.isPrefixOf old then throw .notEmpty
  match moved, t.lookup new with
  | .file _, some (.dir _) => throw .isDirectory
  | .dir _, some (.file _) => throw .notDirectory
  | .dir _, some (.dir (_ :: _)) => throw .notEmpty
  | _, _ => return (t.remove old).put new moved

/-- A rename finds two places and then puts the one at the other. -/
theorem rename_eq (t : FileTree) (source target : Path) :
    t.rename source target = (do
      source.checkText
      target.checkText
      source.checkLength
      target.checkLength
      let _ ← t.locateParent source
      let _ ← t.locateParent target
      if source.endsNameless || target.endsNameless then throw .busy
      let old ← t.locate source
      match t.lookup old with
      | none => throw .notFound
      | some moved =>
        let new ← t.locate target
        t.replace moved old new) :=
  rfl

/-- Where a plain file was put at another place, no directory stood there. -/
theorem replace_file_eq_ok {old new : Place}
    (h : t.replace (.file f) old new = .ok t') (hne : old ≠ new) :
    t' = (t.remove old).put new (.file f) ∧ t.kind? new ≠ some .dir := by
  unfold replace at h
  rw [if_neg hne] at h
  have hbelow : old.isPrefixOf new ≠ true := fun hp => by
    rw [if_pos hp] at h
    exact absurd h throw_bind_ne_ok
  rw [if_neg hbelow] at h
  dsimp only at h
  have habove : new.isPrefixOf old ≠ true := fun hp => by
    rw [if_pos hp] at h
    exact absurd h throw_bind_ne_ok
  rw [if_neg habove] at h
  unfold kind?
  rcases hk : t.lookup new with - | (g | es)
  · rw [hk] at h
    exact ⟨(Except.ok.inj h).symm, by simp⟩
  · rw [hk] at h
    exact ⟨(Except.ok.inj h).symm, by simp [topKind]⟩
  · rw [hk] at h
    exact absurd h throw_ne_ok

theorem kind?_of_prefix_concat {outer : Place} {name : Text}
    (hd : t.kind? outer = some .dir) (hp : place <+: outer ++ [name])
    (hne : place ≠ outer ++ [name]) : t.kind? place = some .dir := by
  obtain ⟨rest, rfl⟩ := (List.prefix_concat_iff.1 hp).resolve_left hne
  by_cases hr : rest = []
  · rw [hr, List.append_nil] at hd
    exact hd
  · exact kind?_above hr hd

/-- A plain file can be put at an entry of a directory where no directory
stands: neither place is below the other, for neither is one. -/
theorem replace_file_of_free {outer above : Place} {a b : Text}
    (hf : t.kind? (outer ++ [a]) = some (.file f))
    (ho : t.kind? outer = some .dir) (hd : t.kind? above = some .dir)
    (hfree : t.kind? (above ++ [b]) ≠ some .dir) :
    ∃ t', t.replace (.file f) (outer ++ [a]) (above ++ [b]) = .ok t' := by
  unfold replace
  by_cases hsame : outer ++ [a] = above ++ [b]
  · rw [if_pos hsame]
    exact ⟨t, rfl⟩
  have hbelow : (outer ++ [a]).isPrefixOf (above ++ [b]) ≠ true := by
    intro hprefix
    rw [kind?_of_prefix_concat hd (List.isPrefixOf_iff_prefix.1 hprefix) hsame]
      at hf
    exact absurd hf (by simp)
  have habove : (above ++ [b]).isPrefixOf (outer ++ [a]) ≠ true :=
    fun hprefix => hfree (kind?_of_prefix_concat ho
      (List.isPrefixOf_iff_prefix.1 hprefix) (Ne.symm hsame))
  rw [if_neg hsame, if_neg hbelow]
  dsimp only
  rw [if_neg habove]
  rcases hk : t.lookup (above ++ [b]) with - | (g | es)
  · exact ⟨_, rfl⟩
  · exact ⟨_, rfl⟩
  · exact absurd (kind?_eq_dir_iff.2 ⟨es, hk⟩) hfree

/-- **A plain file that was moved** is gone from where it was and stands where
no directory stood, under a name of its own, and this is all that changed. -/
theorem rename_eq_ok {source target : Path} (h : t.rename source target = .ok t')
    (hs : t.locate source = .ok place) (hf : t.kind? place = some (.file f)) :
    ∃ new, t.locate target = .ok new ∧ target.endsNameless = false
      ∧ t.kind? new ≠ some .dir
      ∧ ∀ q, t'.kind? q
        = if q = new then some (.file f)
          else if q = place then none else t.kind? q := by
  rw [rename_eq] at h
  obtain ⟨⟨⟩, -, h⟩ := bind_eq_ok.1 h
  obtain ⟨⟨⟩, -, h⟩ := bind_eq_ok.1 h
  obtain ⟨⟨⟩, -, h⟩ := bind_eq_ok.1 h
  obtain ⟨⟨⟩, -, h⟩ := bind_eq_ok.1 h
  obtain ⟨-, -, h⟩ := bind_eq_ok.1 h
  obtain ⟨-, -, h⟩ := bind_eq_ok.1 h
  by_cases hn : (source.endsNameless || target.endsNameless) = true
  · rw [if_pos hn] at h
    exact absurd h throw_bind_ne_ok
  rw [if_neg hn] at h
  rw [Bool.or_eq_true, not_or] at hn
  have htn := Bool.eq_false_iff.2 hn.2
  obtain ⟨old, hold, h⟩ := bind_eq_ok.1 h
  obtain rfl : place = old := Except.ok.inj (hs.symm.trans hold)
  rw [kind?_eq_file_iff.1 hf] at h
  obtain ⟨new, hnew, h⟩ := bind_eq_ok.1 h
  by_cases hsame : place = new
  · -- a file that is moved to where it is stays
    subst hsame
    unfold replace at h
    rw [if_pos rfl] at h
    obtain rfl := Except.ok.inj h
    refine ⟨place, hnew, htn, by rw [hf]; simp, fun q => ?_⟩
    by_cases hq : q = place
    · rw [if_pos hq, hq, hf]
    · rw [if_neg hq, if_neg hq]
  obtain ⟨rfl, hnd⟩ := replace_file_eq_ok h hsame
  have hne : place ≠ [] := by
    obtain ⟨name, hdd, hp⟩ :=
      exists_child_of_not_endsNameless (Bool.eq_false_iff.2 hn.1)
    rw [hp] at hs
    exact locate_child_ne_nil hdd hs
  obtain ⟨name, hdd, hp⟩ := exists_child_of_not_endsNameless htn
  have hnew' := hnew
  rw [hp] at hnew'
  obtain ⟨above, -, hd, -, rfl⟩ := (locate_child_eq_ok_iff hdd).1 hnew'
  have hview := kind?_remove_file hf hne
  -- the directory that takes the file is still one without the file
  have hd' : (t.remove place).kind? above = some .dir := by
    rw [hview, if_neg, hd]
    rintro rfl
    rw [hf] at hd
    exact absurd hd (by simp)
  obtain ⟨es, hes⟩ := kind?_eq_dir_iff.1 hd'
  refine ⟨_, hnew, htn, hnd, fun q => ?_⟩
  rw [kind?_put_file hes, hview]
  rw [hview, if_neg (Ne.symm hsame)]
  exact hnd

/-- **A plain file can be moved** to an entry of a directory where no directory
stands, if the system takes both paths. -/
theorem rename_of_free {p q : Path} {a b : Text} {old above : Place}
    (hsc : (p.child a).check = .ok ()) (htc : (q.child b).check = .ok ())
    (ha : a ≠ Path.dotDot) (hb : b ≠ Path.dotDot)
    (hs : t.locate (p.child a) = .ok old) (hf : t.kind? old = some (.file f))
    (hq : t.locate q = .ok above) (hd : t.kind? above = some .dir)
    (hl : Path.isTooLong b = false)
    (hfree : t.kind? (above ++ [Utf8.respell b]) ≠ some .dir) :
    ∃ t', t.rename (p.child a) (q.child b) = .ok t' := by
  obtain ⟨outer, hp, hod, -, rfl⟩ := (locate_child_eq_ok_iff ha).1 hs
  have hsp : t.locateParent (p.child a) = .ok outer := by
    rw [locateParent_eq_ok_iff, Path.parent_child]
    exact ⟨hp, hod⟩
  have htp : t.locateParent (q.child b) = .ok above := by
    rw [locateParent_eq_ok_iff, Path.parent_child]
    exact ⟨hq, hd⟩
  have hnew := (locate_child_eq_ok_iff (t := t) hb).2 ⟨above, hq, hd, hl, rfl⟩
  obtain ⟨⟨⟩, hst, hsl⟩ := bind_eq_ok.1 hsc
  obtain ⟨⟨⟩, htt, htl⟩ := bind_eq_ok.1 htc
  obtain ⟨t', ht'⟩ := replace_file_of_free hf hod hd hfree
  refine ⟨t', ?_⟩
  rw [rename_eq, hst, htt, hsl, htl, hsp, htp, Path.endsNameless_child ha,
    Path.endsNameless_child hb, hs]
  dsimp only [Bind.bind, Except.bind]
  rw [kind?_eq_file_iff.1 hf, hnew]
  exact ht'

/-- **Whether a plain file can be put at a path**: the system takes the path,
it ends in a name, and what it leads to is no directory. -/
def Admits (t : FileTree) (p : Path) : Prop :=
  p.check = .ok () ∧ p.endsNameless = false
    ∧ ∃ place, t.locate p = .ok place ∧ t.kind? place ≠ some .dir

/-- **A plain file can be moved** exactly where one can be put. -/
theorem exists_rename_iff {source target : Path} {old : Place}
    (hc : source.check = .ok ()) (hn : source.endsNameless = false)
    (hs : t.locate source = .ok old) (hf : t.kind? old = some (.file f)) :
    (∃ t', t.rename source target = .ok t') ↔ t.Admits target := by
  constructor
  · rintro ⟨t', h⟩
    obtain ⟨new, hnew, hnamed, hfree, -⟩ := rename_eq_ok h hs hf
    refine ⟨?_, hnamed, new, hnew, hfree⟩
    rw [rename_eq] at h
    obtain ⟨⟨⟩, -, h⟩ := bind_eq_ok.1 h
    obtain ⟨⟨⟩, htext, h⟩ := bind_eq_ok.1 h
    obtain ⟨⟨⟩, -, h⟩ := bind_eq_ok.1 h
    obtain ⟨⟨⟩, hlength, -⟩ := bind_eq_ok.1 h
    exact bind_eq_ok.2 ⟨(), htext, hlength⟩
  · rintro ⟨hcheck, hnamed, new, hnew, hfree⟩
    obtain ⟨a, ha, hsource⟩ := exists_child_of_not_endsNameless hn
    obtain ⟨b, hb, htarget⟩ := exists_child_of_not_endsNameless hnamed
    rw [hsource] at hc hs ⊢
    rw [htarget] at hcheck hnew ⊢
    obtain ⟨above, hq, hd, hshort, rfl⟩ := (locate_child_eq_ok_iff hb).1 hnew
    exact rename_of_free hc hcheck ha hb hs hf hq hd hshort hfree

/-- Whether a plain file can be put at a path depends on the directories. -/
theorem Admits.of_keepsDirs {p : Path} (h : t.KeepsDirs t')
    (h' : t'.KeepsDirs t) (hp : t.Admits p) : t'.Admits p := by
  obtain ⟨hcheck, hnamed, new, hnew, hfree⟩ := hp
  exact ⟨hcheck, hnamed, new, locate_mono h hnew, fun hd => hfree (h' new hd)⟩

/-- **A new plain file that was moved** stands where it was moved to, and this
is all that changed. -/
theorem Adds.rename_eq_ok {t'' : FileTree} {source target : Path}
    (h : t.Adds t' place f) (hs : t'.locate source = .ok place)
    (hr : t'.rename source target = .ok t'') :
    ∃ new, t''.locate target = .ok new
      ∧ ∀ q, t''.kind? q = if q = new then some (.file f) else t.kind? q := by
  obtain ⟨new, hnew, -, hfree, hview⟩ :=
    FileTree.rename_eq_ok hr hs h.kind?_self
  have hkept : t'.KeepsDirs t'' := by
    intro q hq
    rw [hview, if_neg, if_neg, hq]
    · rintro rfl
      rw [h.kind?_self] at hq
      exact absurd hq (by simp)
    · rintro rfl
      exact hfree hq
  refine ⟨new, locate_mono hkept hnew, fun q => ?_⟩
  rw [hview]
  by_cases hq : q = new
  · rw [if_pos hq, if_pos hq]
  · rw [if_neg hq, if_neg hq]
    by_cases hp : q = place
    · rw [if_pos hp, hp, h.free]
    · rw [if_neg hp, h.view, if_neg hp]

/-- The directory above a path is refused by the system alone. -/
theorem isSystem_of_locateParent {p : Path} {e : FileError}
    (h : t.locateParent p = .error e) : e.isSystem = true := by
  unfold locateParent at h
  obtain h | ⟨above, -, h⟩ := bind_eq_error.1 h
  · exact isSystem_of_walk h
  obtain h | ⟨-, -, h⟩ := bind_eq_error.1 h
  · unfold checkDir at h
    split at h
    · rw [← Except.error.inj h]
      rfl
    · rw [← Except.error.inj h]
      rfl
    · exact absurd h (by simp)
  · exact absurd h pure_ne_error

theorem isSystem_of_checkLength {p : Path} {e : FileError}
    (h : p.checkLength = .error e) : e.isSystem = true := by
  unfold Path.checkLength at h
  split at h
  · rw [← Except.error.inj h]
    rfl
  · exact absurd h (by simp)

/-- What cannot be put at another place is refused by the system. -/
theorem isSystem_of_replace {moved : FileTree} {old new : Place} {e : FileError}
    (h : t.replace moved old new = .error e) : e.isSystem = true := by
  unfold replace at h
  by_cases hsame : old = new
  · rw [if_pos hsame] at h
    exact absurd h pure_ne_error
  rw [if_neg hsame] at h
  by_cases hbelow : old.isPrefixOf new = true
  · rw [if_pos hbelow] at h
    rw [← throw_bind_eq_error.1 h]
    rfl
  rw [if_neg hbelow] at h
  by_cases habove : new.isPrefixOf old = true
  · rw [if_pos habove] at h
    rw [← throw_bind_eq_error.1 h]
    rfl
  rw [if_neg habove] at h
  dsimp only at h
  split at h
  · rw [← throw_eq_error.1 h]
    rfl
  · rw [← throw_eq_error.1 h]
    rfl
  · rw [← throw_eq_error.1 h]
    rfl
  · exact absurd h pure_ne_error

/-- **A move is refused by the system alone**, if both paths can be passed
on. -/
theorem isSystem_of_rename {source target : Path} {e : FileError}
    (hs : source.checkText = .ok ()) (ht : target.checkText = .ok ())
    (h : t.rename source target = .error e) : e.isSystem = true := by
  rw [rename_eq] at h
  obtain h | ⟨-, -, h⟩ := bind_eq_error.1 h
  · rw [hs] at h
    exact absurd h (by simp)
  obtain h | ⟨-, -, h⟩ := bind_eq_error.1 h
  · rw [ht] at h
    exact absurd h (by simp)
  obtain h | ⟨-, -, h⟩ := bind_eq_error.1 h
  · exact isSystem_of_checkLength h
  obtain h | ⟨-, -, h⟩ := bind_eq_error.1 h
  · exact isSystem_of_checkLength h
  obtain h | ⟨-, -, h⟩ := bind_eq_error.1 h
  · exact isSystem_of_locateParent h
  obtain h | ⟨-, -, h⟩ := bind_eq_error.1 h
  · exact isSystem_of_locateParent h
  by_cases hn : (source.endsNameless || target.endsNameless) = true
  · rw [if_pos hn] at h
    rw [← throw_bind_eq_error.1 h]
    rfl
  rw [if_neg hn] at h
  obtain h | ⟨old, -, h⟩ := bind_eq_error.1 h
  · exact isSystem_of_walk h
  cases hk : t.lookup old with
  | none =>
    rw [hk] at h
    rw [← throw_eq_error.1 h]
    rfl
  | some moved =>
    rw [hk] at h
    obtain h | ⟨new, -, h⟩ := bind_eq_error.1 h
    · exact isSystem_of_walk h
    · exact isSystem_of_replace h

end Lexicon.FileTree
