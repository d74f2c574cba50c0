import Lexicon.FileTree.Kind
import Lexicon.FileTree.Locate
import Lexicon.Proofs.Outcome

/-!
# Directories show the way

Where a path leads depends on nothing but the directories on the way, so a
change that keeps them keeps every place that was found and every name that
was refused for its length (`FileTree.walk_mono`). What such a change can turn
is an answer that nothing is there: with a directory more, the path may lead
on.
-/

namespace Lexicon

namespace Path

@[simp] theorem name_child (p : Path) (entry : Text) :
    (p.child entry).name = entry := by
  unfold name child
  rw [List.getLast?_append, List.getLast?_singleton]
  rfl

@[simp] theorem parent_child (p : Path) (name : Text) :
    (p.child name).parent = p := by
  unfold parent child
  rw [List.dropLast_concat]

theorem endsNameless_child {p : Path} {name : Text} (hn : name ≠ dotDot) :
    (p.child name).endsNameless = false := by
  unfold endsNameless child
  rw [List.getLast?_append, List.getLast?_singleton]
  exact beq_false_of_ne hn

end Path

namespace FileTree

/-- **Every directory of a tree is one of another tree, too.** -/
def KeepsDirs (t t' : FileTree) : Prop :=
  ∀ place, t.kind? place = some .dir → t'.kind? place = some .dir

theorem KeepsDirs.refl (t : FileTree) : t.KeepsDirs t :=
  fun _ h => h

theorem KeepsDirs.trans {t t' t'' : FileTree} (h : t.KeepsDirs t')
    (h' : t'.KeepsDirs t'') : t.KeepsDirs t'' :=
  fun place hd => h' place (h place hd)

/-- **A tree gained directories**: where something changed there was nothing,
there is a directory now, and the place is one of the new ones. -/
def Gains (t t' : FileTree) (new : Place → Prop) : Prop :=
  ∀ place, t'.kind? place = t.kind? place
    ∨ (t.kind? place = none ∧ t'.kind? place = some .dir ∧ new place)

namespace Gains

variable {t t' t'' : FileTree} {new new' : Place → Prop}

theorem refl (t : FileTree) (new : Place → Prop) : t.Gains t new :=
  fun _ => Or.inl rfl

theorem kind?_eq (h : t.Gains t' new) {place : Place} {k : Kind}
    (hk : t.kind? place = some k) : t'.kind? place = some k := by
  obtain he | ⟨hn, -, -⟩ := h place
  · rw [he, hk]
  · rw [hn] at hk
    exact absurd hk (by simp)

theorem keepsDirs (h : t.Gains t' new) : t.KeepsDirs t' :=
  fun _ hd => h.kind?_eq hd

theorem kind?_eq_file_iff (h : t.Gains t' new) {place : Place} {f : File} :
    t'.kind? place = some (.file f) ↔ t.kind? place = some (.file f) := by
  refine ⟨fun hf => ?_, h.kind?_eq⟩
  obtain he | ⟨-, hd, -⟩ := h place
  · rw [← he, hf]
  · rw [hd] at hf
    exact absurd hf (by simp)

/-- One gain after another. -/
theorem trans (h : t.Gains t' new) (h' : t'.Gains t'' new) : t.Gains t'' new := by
  intro place
  obtain he' | ⟨hn', hd', hp'⟩ := h' place
  · rw [he']
    exact h place
  · obtain he | ⟨-, hd, -⟩ := h place
    · rw [← he]
      exact Or.inr ⟨hn', hd', hp'⟩
    · rw [hn'] at hd
      exact absurd hd (by simp)

theorem mono (h : t.Gains t' new) (hn : ∀ place, new place → new' place) :
    t.Gains t' new' :=
  fun place => (h place).imp_right fun ⟨hk, hd, hp⟩ => ⟨hk, hd, hn place hp⟩

end Gains

variable {t t' : FileTree} {here place : Place} {name : Text}

theorem mem_of_child? {entries : List (Text × FileTree)} {name : Text}
    {t : FileTree} (h : child? entries name = some t) : (name, t) ∈ entries := by
  obtain ⟨front, back, rfl, -⟩ := List.lookup_eq_some_iff.1 h
  exact List.mem_append_right _ List.mem_cons_self

theorem kind?_eq_dir_iff :
    t.kind? place = some .dir ↔ ∃ es, t.lookup place = some (.dir es) := by
  unfold kind?
  rcases t.lookup place with - | (f | es) <;> simp [topKind]

theorem kind?_eq_file_iff {f : File} :
    t.kind? place = some (.file f) ↔ t.lookup place = some (.file f) := by
  unfold kind?
  rcases t.lookup place with - | (f | es) <;> simp [topKind]

theorem kind?_eq_none_iff : t.kind? place = none ↔ t.lookup place = none := by
  unfold kind?
  rw [Option.map_eq_none_iff]

theorem kind?_above {k : Kind} {rest : Place} (hr : rest ≠ [])
    (h : t.kind? (place ++ rest) = some k) : t.kind? place = some .dir := by
  obtain ⟨s, hs, -⟩ := Option.map_eq_some_iff.1 h
  exact kind?_eq_dir_iff.2 (lookup_above hr hs)

@[simp] theorem checkDir_eq_ok_iff :
    t.checkDir place = .ok () ↔ t.kind? place = some .dir := by
  unfold checkDir kind?
  rcases t.lookup place with - | (f | es) <;> simp [topKind]

theorem meansAbsent_of_checkDir {e : FileError}
    (h : t.checkDir place = .error e) : e.meansAbsent = true := by
  unfold checkDir at h
  split at h
  · rw [← Except.error.inj h]
    rfl
  · rw [← Except.error.inj h]
    rfl
  · exact absurd h (by simp)

/-- **Following a path is refused by the system alone.** -/
theorem isSystem_of_walk {names : List Text} {e : FileError}
    (h : t.walk here names = .error e) : e.isSystem = true := by
  induction names generalizing here with
  | nil => exact absurd h (by simp [walk])
  | cons name rest ih =>
    unfold walk at h
    cases hc : t.checkDir here with
    | error e' =>
      rw [hc] at h
      rw [← Except.error.inj h]
      unfold checkDir at hc
      split at hc
      · rw [← Except.error.inj hc]
        rfl
      · rw [← Except.error.inj hc]
        rfl
      · exact absurd hc (by simp)
    | ok u =>
      rw [hc] at h
      dsimp only at h
      split at h
      · exact ih h
      · split at h
        · rw [← Except.error.inj h]
          rfl
        · exact ih h

/-- **What directories decide stays decided** while they are kept: a place that
is found, or a refusal that does not merely say that nothing is there. -/
theorem walk_mono (h : t.KeepsDirs t') {names : List Text}
    {result : Except FileError Place}
    (hr : ∀ e, result = .error e → e.meansAbsent = false)
    (hw : t.walk here names = result) : t'.walk here names = result := by
  induction names generalizing here with
  | nil => exact hw
  | cons name rest ih =>
    unfold walk at hw ⊢
    cases hc : t.checkDir here with
    | error e =>
      rw [hc] at hw
      have habsent := meansAbsent_of_checkDir hc
      rw [hr e hw.symm] at habsent
      exact absurd habsent (by decide)
    | ok u =>
      rw [hc] at hw
      rw [checkDir_eq_ok_iff.2 (h _ (checkDir_eq_ok_iff.1 hc))]
      dsimp only at hw ⊢
      by_cases hd : name = Path.dotDot
      · rw [if_pos hd] at hw ⊢
        exact ih hw
      · rw [if_neg hd] at hw ⊢
        by_cases hl : Path.isTooLong name = true
        · rw [if_pos hl] at hw ⊢
          exact hw
        · rw [if_neg hl] at hw ⊢
          exact ih hw

@[simp] theorem checkDir_eq_notFound_iff :
    t.checkDir place = .error .notFound ↔ t.kind? place = none := by
  unfold checkDir kind?
  rcases t.lookup place with - | (f | es) <;> simp

/-- **Where nothing is found on the way**, nothing is found in a tree that
keeps the directories and has nothing where there was nothing. -/
theorem walk_eq_notFound (h : t.KeepsDirs t')
    (hn : ∀ place, t.kind? place = none → t'.kind? place = none)
    {names : List Text} (hw : t.walk here names = .error .notFound) :
    t'.walk here names = .error .notFound := by
  induction names generalizing here with
  | nil => exact absurd hw (by simp [walk])
  | cons name rest ih =>
    unfold walk at hw ⊢
    cases hc : t.checkDir here with
    | error e =>
      rw [hc] at hw
      obtain rfl := Except.error.inj hw
      rw [checkDir_eq_notFound_iff.2 (hn _ (checkDir_eq_notFound_iff.1 hc))]
    | ok u =>
      rw [hc] at hw
      rw [checkDir_eq_ok_iff.2 (h _ (checkDir_eq_ok_iff.1 hc))]
      dsimp only at hw ⊢
      by_cases hd : name = Path.dotDot
      · rw [if_pos hd] at hw ⊢
        exact ih hw
      · rw [if_neg hd] at hw ⊢
        by_cases hl : Path.isTooLong name = true
        · rw [if_pos hl] at hw
          exact absurd hw (by simp)
        · rw [if_neg hl] at hw ⊢
          exact ih hw

theorem locate_mono (h : t.KeepsDirs t') {p : Path}
    (hl : t.locate p = .ok place) : t'.locate p = .ok place :=
  walk_mono h (fun _ he => absurd he (by simp)) hl

/-- **A single name leads from a directory to its entry**, if it is not too
long. -/
theorem walk_singleton_eq_ok_iff (hn : name ≠ Path.dotDot) :
    t.walk here [name] = .ok place
      ↔ t.kind? here = some .dir ∧ Path.isTooLong name = false
        ∧ place = here ++ [Utf8.respell name] := by
  unfold walk
  cases hc : t.checkDir here with
  | error e =>
    refine iff_of_false (by simp) ?_
    rintro ⟨hd, -⟩
    rw [checkDir_eq_ok_iff.2 hd] at hc
    exact absurd hc (by simp)
  | ok u =>
    rw [checkDir_eq_ok_iff.1 hc, if_neg hn]
    by_cases hl : Path.isTooLong name = true
    · simp [hl]
    · simp [hl, walk, eq_comm]

theorem locate_child (p : Path) :
    t.locate (p.child name)
      = (t.locate p).bind fun above => t.walk above [name] :=
  walk_append t _ _ _

/-- **An entry of a directory is found** where the directory is. -/
theorem locate_child_eq_ok_iff {p : Path} (hn : name ≠ Path.dotDot) :
    t.locate (p.child name) = .ok place
      ↔ ∃ above, t.locate p = .ok above ∧ t.kind? above = some .dir
        ∧ Path.isTooLong name = false
        ∧ place = above ++ [Utf8.respell name] := by
  rw [locate_child]
  show (t.locate p >>= fun above => t.walk above [name]) = _ ↔ _
  rw [bind_eq_ok]
  refine exists_congr fun above => and_congr_right fun _ => ?_
  exact walk_singleton_eq_ok_iff hn

/-- **No directory is asked for a name that is too long.** -/
theorem locate_child_of_isTooLong {p : Path} {above : Place}
    (hn : name ≠ Path.dotDot) (hl : t.locate p = .ok above)
    (hd : t.kind? above = some .dir) (hs : Path.isTooLong name = true) :
    t.locate (p.child name) = .error .nameTooLong := by
  rw [locate_child, hl]
  show t.walk above [name] = _
  unfold walk
  rw [checkDir_eq_ok_iff.2 hd]
  dsimp only
  rw [if_neg hn, if_pos hs]

/-- A path with a name of its own is an entry of the path above it. -/
theorem exists_child_of_not_endsNameless {p : Path}
    (h : p.endsNameless = false) :
    ∃ name, name ≠ Path.dotDot ∧ p = p.parent.child name := by
  unfold Path.endsNameless at h
  rcases List.eq_nil_or_concat p.parts with hp | ⟨outer, name, hp⟩
  · rw [hp] at h
    exact absurd h (by decide)
  · rw [hp] at h
    refine ⟨name, ?_, ?_⟩
    · rintro rfl
      simp at h
    · unfold Path.parent Path.child
      rw [hp]
      cases p
      simp_all

/-- The directory above a path is found exactly if it is one. -/
theorem locateParent_eq_ok_iff {p : Path} :
    t.locateParent p = .ok place
      ↔ t.locate p.parent = .ok place ∧ t.kind? place = some .dir := by
  unfold locateParent
  rw [bind_eq_ok]
  constructor
  · rintro ⟨above, hl, h⟩
    obtain ⟨⟨⟩, hc, he⟩ := bind_eq_ok.1 h
    obtain rfl : above = place := Except.ok.inj he
    exact ⟨hl, checkDir_eq_ok_iff.1 hc⟩
  · rintro ⟨hl, hd⟩
    exact ⟨place, hl, bind_eq_ok.2 ⟨(), checkDir_eq_ok_iff.2 hd, rfl⟩⟩

end FileTree

end Lexicon
