import Lexicon.Export
import Lexicon.Proofs.Path.Names
import Lexicon.Proofs.Text.Utf8.Respelling
import Lexicon.Proofs.Volume.Removal

/-!
# Drafts

The name of a draft is ASCII and short, and all such names are equally long, so
whether the system takes the path of a draft depends on the directory alone
(`check_child_congr`). A draft is therefore made exactly if some name is free
(`openDraft_spec`). Whatever becomes of it, a draft is told by what it adds to
the tree (`IsDraft`): it is written over (`IsDraft.fillDraft_spec`), or it is
taken away, and then the tree shows what it showed before
(`IsDraft.abandon_spec`).
-/

namespace Lexicon.Export

variable {t u : FileTree} {dir : Path} {above place : Place} {name : Text}
  {names : List Text} {f : File}

/-! ## Names of drafts -/

/-- **A name such as a draft can have**: eight letters, digits or underscores
between what opens and what ends all of these names. -/
def IsDraftName (name : Text) : Prop :=
  ∃ sign : Text, sign.length = 8 ∧ (∀ c ∈ sign, FileName.isPlain c.val = true)
    ∧ name = lit "tmp" ++ sign ++ lit ".parquet"

theorem isDraftName_of_mem_draftNames (h : name ∈ draftNames) :
    IsDraftName name := by
  obtain ⟨n, -, rfl⟩ := List.mem_map.1 h
  refine ⟨Hex.fixed 8 n, Hex.length_fixed 8 n, fun c hc => ?_, rfl⟩
  obtain ⟨k, rfl⟩ := Hex.mem_fixed hc
  have hdigit : ∀ k : Fin 16, FileName.isPlain (Hex.digit k.val).val = true := by
    decide
  exact hdigit k

namespace IsDraftName

variable {other : Text}

theorem length (h : IsDraftName name) : name.length = 19 := by
  obtain ⟨sign, hlength, -, rfl⟩ := h
  rw [List.length_append, List.length_append, hlength]
  rfl

/-- The name of a draft is ASCII, without zero and slash. -/
theorem ascii (h : IsDraftName name) :
    ∀ c ∈ name, c.val < 0x80 ∧ c ≠ 0 ∧ c ≠ Path.slash := by
  obtain ⟨sign, -, hplain, rfl⟩ := h
  have hfixed : ∀ c ∈ lit "tmp" ++ lit ".parquet",
      c.val < 0x80 ∧ c ≠ 0 ∧ c ≠ Path.slash := by
    have hall : (lit "tmp" ++ lit ".parquet").all
        (fun c => c.val < 0x80 ∧ c ≠ 0 ∧ c ≠ Path.slash) = true := by
      decide +kernel
    exact fun c hc => of_decide_eq_true (List.all_eq_true.1 hall c hc)
  rw [List.forall_mem_append] at hfixed
  refine List.forall_mem_append.2
    ⟨List.forall_mem_append.2 ⟨hfixed.1, fun c hc => ?_⟩, hfixed.2⟩
  obtain ⟨hlow, hzero, -, hslash⟩ :=
    FileName.of_inAlphabet (by rw [FileName.inAlphabet, hplain c hc]; rfl)
  exact ⟨hlow, hzero, hslash⟩

theorem ne_dotDot (h : IsDraftName name) : name ≠ Path.dotDot := by
  rintro rfl
  exact absurd h.length (by decide)

theorem length_encodeName (h : IsDraftName name) :
    (Utf8.encodeName name).length = 19 := by
  rw [Utf8.length_encodeName_of_ascii fun c hc => (h.ascii c hc).1, h.length]

theorem isTooLong (h : IsDraftName name) : Path.isTooLong name = false := by
  rw [Path.isTooLong, h.length_encodeName]
  rfl

theorem respell (h : IsDraftName name) : Utf8.respell name = name := by
  refine if_neg fun hany => ?_
  obtain ⟨c, hc, he⟩ := List.any_eq_true.1 hany
  have hlow := (h.ascii c hc).1
  unfold CodePoint.isEscapedByte at he
  simp only [Bool.and_eq_true, decide_eq_true_eq] at he
  omega

theorem not_isSurrogate (h : IsDraftName name) :
    ∀ c ∈ name, c.isSurrogate = false := by
  intro c hc
  have hlow := (h.ascii c hc).1
  unfold CodePoint.isSurrogate
  simp
  omega

theorem isPassable (h : IsDraftName name) :
    ∀ c ∈ name, c.isPassable = true := by
  intro c hc
  unfold CodePoint.isPassable
  rw [h.not_isSurrogate c hc]
  simpa using (h.ascii c hc).2.1

/-- **The system takes the paths of all drafts in a directory, or of none.** -/
theorem check_child_congr (h : IsDraftName name) (h' : IsDraftName other) :
    (dir.child name).check = .ok () ↔ (dir.child other).check = .ok () := by
  obtain ⟨front, hfront⟩ := Path.exists_toText_child dir
  rw [Path.check_eq_ok_iff, Path.check_eq_ok_iff, Path.checkText_child,
    Path.checkText_child, and_iff_left h.isPassable, and_iff_left h'.isPassable,
    Path.isOverlong, Path.isOverlong, hfront, hfront, Utf8.encodeName_append,
    Utf8.encodeName_append, List.length_append, List.length_append,
    h.length_encodeName, h'.length_encodeName]

/-- **The path of a draft** can be written exactly if the directory can. -/
theorem any_isSurrogate_toText (h : IsDraftName name) :
    (dir.child name).toText.any CodePoint.isSurrogate = false
      ↔ ∀ part ∈ dir.parts, ∀ c ∈ part, c.isSurrogate = false := by
  have hany : (dir.child name).toText.any CodePoint.isSurrogate = false
      ↔ ∀ c ∈ (dir.child name).toText, c.isSurrogate = false := by
    rw [← Bool.not_eq_true, List.any_eq_true]
    simp
  have hparts := Path.forall_mem_toText (p := dir.child name)
    (P := (CodePoint.isSurrogate · = false)) (by decide) (by decide)
  rw [hany, hparts, Path.child, List.forall_mem_append,
    List.forall_mem_singleton, and_iff_left h.not_isSurrogate]

end IsDraftName

/-! ## Making a draft -/

/-- What does not reach the system is not said to be there. -/
@[simp] theorem check_ne_alreadyExists (p : Path) :
    p.check ≠ .error .alreadyExists := by
  intro h
  obtain h | ⟨-, -, h⟩ := bind_eq_error.1 h
  · obtain h | ⟨run, h⟩ := Path.checkText_eq_error h
    · exact absurd h (by simp)
    · exact absurd h (by simp)
  · unfold Path.checkLength at h
    split at h
    · exact absurd h (by simp)
    · exact absurd h (by simp)

/-- **Whether a draft can be made** in a directory, under one of some names:
the system takes its path, and nothing stands there. -/
def HasRoom (t : FileTree) (dir : Path) (above : Place) (names : List Text) :
    Prop :=
  ∃ name ∈ names, (dir.child name).check = .ok ()
    ∧ t.kind? (above ++ [name]) = none

/-- **A draft in the making**: a new plain file at a path with a name of its
own that the system takes. -/
structure IsDraft (t u : FileTree) (draft : Path) (place : Place) (f : File) :
    Prop where
  /-- The system takes the path. -/
  check : draft.check = .ok ()
  /-- It ends in a name. -/
  named : draft.endsNameless = false
  /-- It leads to the draft. -/
  located : t.locate draft = .ok place
  /-- The draft is all that is new. -/
  adds : t.Adds u place f

/-- **One name is tried**: it is free and gives a draft, it is taken and the
others are tried, or the system takes no path of a draft and none is made. -/
theorem openDraft_cons (hn : IsDraftName name) (hl : t.locate dir = .ok above)
    (hd : t.kind? above = some .dir) (others : List Text) :
    ((dir.child name).check = .ok () ∧ t.kind? (above ++ [name]) = none
        ∧ ∃ u, openDraft t dir (name :: others) = .ok (u, dir.child name)
          ∧ IsDraft t u (dir.child name) (above ++ [name]) ⟨.bytes [], 0⟩)
      ∨ ((dir.child name).check = .ok () ∧ t.kind? (above ++ [name]) ≠ none
        ∧ openDraft t dir (name :: others) = openDraft t dir others)
      ∨ ((dir.child name).check ≠ .ok ()
        ∧ ∃ e, openDraft t dir (name :: others) = .error e) := by
  rw [openDraft]
  cases hc : (dir.child name).check with
  | error e =>
    have hcreate : t.create (dir.child name) = .error e := by
      unfold FileTree.create
      rw [hc]
      rfl
    rw [hcreate]
    refine Or.inr (Or.inr ⟨by simp, e, ?_⟩)
    cases e with
    | alreadyExists => exact absurd hc (check_ne_alreadyExists _)
    | _ => rfl
  | ok _ =>
    have hplace : t.locate (dir.child name) = .ok (above ++ [name]) :=
      (FileTree.locate_child_eq_ok_iff hn.ne_dotDot).2
        ⟨above, hl, hd, hn.isTooLong, by rw [hn.respell]⟩
    obtain ⟨htaken, hcreate⟩ | ⟨u, hcreate, hadds⟩ :=
      FileTree.create_child hn.ne_dotDot hc hl hd hn.isTooLong
    · rw [hn.respell] at htaken
      rw [hcreate]
      exact Or.inr (Or.inl ⟨rfl, htaken, rfl⟩)
    · rw [hn.respell] at hadds
      rw [hcreate]
      exact Or.inl ⟨rfl, hadds.free, u, rfl, hc,
        Path.endsNameless_child hn.ne_dotDot, hplace, hadds⟩

/-- **A draft is made exactly if there is room for one.** -/
theorem openDraft_spec (hn : ∀ name ∈ names, IsDraftName name)
    (hl : t.locate dir = .ok above) (hd : t.kind? above = some .dir) :
    (HasRoom t dir above names ∧ ∃ name ∈ names, ∃ u,
        openDraft t dir names = .ok (u, dir.child name)
          ∧ IsDraft t u (dir.child name) (above ++ [name]) ⟨.bytes [], 0⟩)
      ∨ (¬ HasRoom t dir above names
        ∧ ∃ e, openDraft t dir names = .error e) := by
  induction names with
  | nil => exact Or.inr ⟨fun ⟨_, hm, _⟩ => absurd hm List.not_mem_nil, _, rfl⟩
  | cons name others ih =>
    obtain ⟨hname, hothers⟩ := List.forall_mem_cons.1 hn
    obtain ⟨hc, hfree, u, hopen, hdraft⟩ | ⟨hc, htaken, hopen⟩ | ⟨hc, hfails⟩ :=
      openDraft_cons hname hl hd others
    · exact Or.inl ⟨⟨name, List.mem_cons_self, hc, hfree⟩, name,
        List.mem_cons_self, u, hopen, hdraft⟩
    · rw [hopen]
      refine (ih hothers).imp ?_ (And.imp_left (mt ?_))
      · rintro ⟨⟨other, hm, hroom⟩, other', hm', hmade⟩
        exact ⟨⟨other, List.mem_cons_of_mem _ hm, hroom⟩, other',
          List.mem_cons_of_mem _ hm', hmade⟩
      · rintro ⟨other, hm, hcheck, hfree⟩
        obtain rfl | hm := List.mem_cons.1 hm
        · exact absurd hfree htaken
        · exact ⟨other, hm, hcheck, hfree⟩
    · -- no other name does any better
      refine Or.inr ⟨fun ⟨other, hm, hcheck, _⟩ => hc ?_, hfails⟩
      exact ((hn other hm).check_child_congr hname).1 hcheck

/-! ## What becomes of a draft -/

namespace IsDraft

variable {v : Volume} {draft : Path} {rows : List Row}

/-- **A draft is filled exactly if its path can be written**, and is a draft
still. -/
theorem fillDraft_spec (h : IsDraft t u draft place f) (rows : List Row) :
    (draft.toText.any CodePoint.isSurrogate = false
        ∧ ∃ u', fillDraft u draft rows = .ok u'
          ∧ IsDraft t u' draft place ⟨.listing rows, 0⟩)
      ∨ (draft.toText.any CodePoint.isSurrogate = true
        ∧ fillDraft u draft rows = .error .unwritable) := by
  unfold fillDraft
  cases hs : draft.toText.any CodePoint.isSurrogate with
  | true => exact Or.inr ⟨rfl, if_pos rfl⟩
  | false =>
    obtain ⟨name, hdd, hchild⟩ :=
      FileTree.exists_child_of_not_endsNameless h.named
    obtain ⟨u', hwrite, hadds⟩ := h.adds.write_child hdd (hchild ▸ h.check)
      (hchild ▸ FileTree.locate_mono h.adds.keepsDirs.1 h.located)
      ⟨.listing rows, 0⟩
    rw [← hchild] at hwrite
    refine Or.inl ⟨rfl, u', ?_, h.check, h.named, h.located, hadds⟩
    rw [if_neg (by simp), hwrite]
    rfl

/-- **A draft that is taken away leaves nothing behind**, unless that is
denied. -/
theorem exists_discardDraft (h : IsDraft t v.tree draft place f)
    (hi : v.denied.inspect draft = false)
    (hr : v.denied.remove draft = false) :
    ∃ u, discardDraft v draft = .ok u ∧ ∀ q, u.kind? q = t.kind? q := by
  obtain ⟨name, hdd, hchild⟩ :=
    FileTree.exists_child_of_not_endsNameless h.named
  have hplace := FileTree.locate_mono h.adds.keepsDirs.1 h.located
  have hnode : v.node draft = .ok (.file f) := Volume.node_eq_ok_iff.2
    ⟨hi, h.check, place, hplace, FileTree.kind?_eq_file_iff.1 h.adds.kind?_self⟩
  have hthere : v.isThere draft = .ok true := by
    rw [Volume.isThere, Volume.isKind, hnode]
  obtain ⟨u, hu⟩ : ∃ u, v.unlink draft = .ok u := by
    rw [hchild] at hr hnode ⊢
    exact Volume.unlink_of_file? hdd hr (Volume.file?_eq_some_iff.2 hnode)
  refine ⟨u, by rw [discardDraft, hthere]; exact hu, fun q => ?_⟩
  obtain ⟨place', -, hl, -, hview⟩ := Volume.unlink_eq_ok hu
  obtain rfl := Except.ok.inj (hplace.symm.trans hl)
  rw [hview]
  by_cases hq : q = place
  · rw [if_pos hq, hq, h.adds.free]
  · rw [if_neg hq, h.adds.view, if_neg hq]

/-- **An export that is abandoned** leaves the tree as it was before there was
a draft. -/
theorem abandon_spec (h : IsDraft t v.tree draft place f)
    (hi : v.denied.inspect draft = false)
    (hr : v.denied.remove draft = false) (p : Path) (e : ExportError) :
    (abandon v draft p e).value = .error e
      ∧ ∀ q, (abandon v draft p e).tree.kind? q = t.kind? q := by
  obtain ⟨u, hu, hview⟩ := h.exists_discardDraft hi hr
  unfold abandon
  rw [hu]
  exact ⟨rfl, hview⟩

end IsDraft

end Lexicon.Export
