import Mathlib.Data.List.Nodup
import Lexicon.Proofs.Staging.Run

/-!
# What becomes of the staged files

`Layout.Settles` says what promoting all staged files does, of the trees before
and after it and the paths that it reports: a staged file whose name has no
separator is still there, a malformed one is gone and was moved nowhere, and a
well-formed one is at its destination, which is reported, or still there.
Nothing else is touched but for the directories of locales. The run does so
whenever it comes to its end, and it does unless the directory of some staged
file's locale has a path that is too long for the system
(`promoteAll_settles`). Such a directory cannot be asked about, and instead of
costing its own file it ends the run.
-/

namespace Lexicon

/-- What a path leads to. -/
def FileTree.kindAt? (t : FileTree) (p : Path) : Option Kind :=
  (t.locate p).toOption.bind t.kind?

namespace Layout

/-- Whether nothing is left of a staged file where it waited. -/
def isGone (l : Layout) (t : FileTree) (name : Text) : Bool :=
  (t.kindAt? (l.stagingRoot.child name)).isNone

/-- **Every staged file meets its fate and nothing else is touched.** -/
structure Settles (l : Layout) (staged : List (Text × File))
    (before after : FileTree) (moved : List Path) : Prop where
  /-- A file whose name has no separator is still there. -/
  unmarked : ∀ e ∈ staged, e.1.includes separator = false →
    after.kindAt? (l.stagingRoot.child e.1) = some (.file e.2)
  /-- A file whose name is malformed is gone. -/
  malformed : ∀ e ∈ staged, l.IsMalformed e.1 →
    l.isGone after e.1 = true
  /-- A file whose name is well-formed is gone and its destination reported,
  or it is still there. -/
  wellFormed : ∀ e ∈ staged, ∀ target, l.destination? e.1 = some target →
    (l.isGone after e.1 = true ∧ target ∈ moved)
      ∨ after.kindAt? (l.stagingRoot.child e.1) = some (.file e.2)
  /-- What is reported are the destinations of the well-formed files that are
  gone, in order. -/
  moved_eq : moved = staged.filterMap fun e =>
    if l.isGone after e.1 then l.destination? e.1 else none
  /-- A reported path holds the last of the files that were moved there. -/
  landed : ∀ target ∈ moved, ∃ earlier e later,
    staged = earlier ++ e :: later ∧ l.destination? e.1 = some target
      ∧ l.isGone after e.1 = true
      ∧ (∀ e' ∈ later, l.destination? e'.1 = some target →
        l.isGone after e'.1 = false)
      ∧ after.kindAt? target = some (.file e.2)
  /-- Every other plain file is as it was. -/
  kept : ∀ place f, before.kind? place = some (.file f) →
    (∃ e ∈ staged, before.locate (l.stagingRoot.child e.1) = .ok place)
      ∨ (∃ target ∈ moved, after.locate target = .ok place)
      ∨ after.kind? place = some (.file f)
  /-- No plain file is new but at a reported path. -/
  files : ∀ place f, after.kind? place = some (.file f) →
    before.kind? place = some (.file f)
      ∨ ∃ target ∈ moved, after.locate target = .ok place
  /-- No directory is gone. -/
  keepsDirs : before.KeepsDirs after
  /-- The only new directories are the cache and those of the locales of
  well-formed files. -/
  dirs : ∀ place, after.kind? place = some .dir →
    before.kind? place = some .dir
      ∨ ∃ e ∈ staged, ∃ s, StagingName.ofText e.1 = .ok s
        ∧ (after.locate l.cacheRoot = .ok place
          ∨ after.locate (l.cachePath s.localeKey) = .ok place)

/-- Without staged files nothing happens. -/
theorem Settles.nil (l : Layout) (t : FileTree) : l.Settles [] t t [] where
  unmarked _ he := absurd he List.not_mem_nil
  malformed _ he := absurd he List.not_mem_nil
  wellFormed _ he := absurd he List.not_mem_nil
  moved_eq := rfl
  landed _ hm := absurd hm List.not_mem_nil
  kept _ _ hk := Or.inr (Or.inr hk)
  files _ _ hk := Or.inl hk
  keepsDirs := .refl t
  dirs _ hk := Or.inl hk

/-- What a name's destination says about the name. -/
theorem destination?_eq_some_iff {l : Layout} {name : Text} {target : Path} :
    l.destination? name = some target
      ↔ ∃ s, StagingName.ofText name = .ok s ∧ l.destination s = target := by
  unfold destination?
  cases StagingName.ofText name <;> simp [Except.toOption]

namespace Accounts

variable {l : Layout} {top : Place} {staged : List (Text × File)}
  {before t : FileTree} {turns : List Taken}

theorem destination?_of_target? (h : l.Accounts top staged before turns t)
    {x : Taken} (hx : x ∈ turns) {target : Path}
    (ht : x.target? = some target) : l.destination? x.name = some target := by
  obtain ⟨s, hs, rfl⟩ := h.target x hx target ht
  exact destination?_eq_some_iff.2 ⟨s, hs, rfl⟩

theorem includes_of_isSpent (h : l.Accounts top staged before turns t)
    {x : Taken} (hx : x ∈ turns) (hs : l.IsSpent x) :
    x.name.includes separator = true := by
  obtain ⟨hsep, -⟩ | hsome := hs
  · exact hsep
  · obtain ⟨m, hm⟩ := Option.isSome_iff_exists.1 hsome
    obtain ⟨s, hname, -⟩ := h.target x hx m hm
    exact StagingName.includes_of_ofText hname

theorem target?_of_isSpent (h : l.Accounts top staged before turns t)
    {x : Taken} (hx : x ∈ turns) (hs : l.IsSpent x) {target : Path}
    (hd : l.destination? x.name = some target) : x.target? = some target := by
  obtain ⟨-, hbad⟩ | hsome := hs
  · rw [hbad] at hd
    exact absurd hd (by simp)
  · obtain ⟨m, hm⟩ := Option.isSome_iff_exists.1 hsome
    rw [hm, ← h.destination?_of_target? hx hm, hd]

/-- **What a place shows** after all turns: nothing where a spent file waited,
a plain file at a destination, and elsewhere what it showed before, if it is no
new directory. -/
theorem place_cases (h : l.Accounts top staged before turns t) (q : Place) :
    (t.kind? q = none
        ∧ ∃ x ∈ turns, q = stagingPlace top ++ [x.name])
      ∨ (∃ target ∈ turns.filterMap (·.target?), t.locate target = .ok q
        ∧ ∃ f, t.kind? q = some (.file f))
      ∨ t.kind? q = before.kind? q
      ∨ (before.kind? q = none ∧ t.kind? q = some .dir
        ∧ IsNewDir top staged q) := by
  by_cases hspent : ∃ x ∈ turns, l.IsSpent x ∧ q = stagingPlace top ++ [x.name]
  · obtain ⟨x, hx, hs, rfl⟩ := hspent
    exact Or.inl ⟨h.gone x hx hs, x, hx, rfl⟩
  · by_cases hdest : ∃ x ∈ turns, ∃ s, StagingName.ofText x.name = .ok s
        ∧ x.target? = some (l.destination s) ∧ q = destinationPlace top s
    · obtain ⟨x, hx, s, hs, ht, rfl⟩ := hdest
      obtain ⟨hl, f, -, hk⟩ := h.landed x hx s hs ht
      exact Or.inr (Or.inl
        ⟨_, List.mem_filterMap.2 ⟨x, hx, ht⟩, hl, f, hk⟩)
    · exact Or.inr (Or.inr (h.other q
        (fun x hx hs hq => hspent ⟨x, hx, hs, hq⟩)
        (fun x hx s hs ht hq => hdest ⟨x, hx, s, hs, ht, hq⟩)))

/-! ### The turns of all staged files -/

section

variable (h : l.Accounts top staged before turns t) (hat : l.IsAt before top)
  (hturns : turns.map (fun x => (x.name, x.file)) = staged)
  (hnodup : (staged.map (·.1)).Nodup)
  (hstaged : ∀ e ∈ staged, l.IsStaged before top e)
include h hat hturns hnodup hstaged

/-- **What is left of a staged file**: nothing if it is spent, and otherwise
all of it. -/
theorem fate {x : Taken} (hx : x ∈ turns) :
    (l.IsSpent x ∧ l.isGone t x.name = true)
      ∨ (¬ l.IsSpent x
        ∧ t.kindAt? (l.stagingRoot.child x.name) = some (.file x.file)) := by
  have he := hstaged (x.name, x.file) (hturns ▸ List.mem_map.2 ⟨x, hx, rfl⟩)
  have hkind : t.kindAt? (l.stagingRoot.child x.name)
      = t.kind? (stagingPlace top ++ [x.name]) := by
    unfold FileTree.kindAt?
    rw [(hat.mono h.keepsDirs).locate_staged he.name he.short]
    rfl
  unfold isGone
  rw [hkind]
  by_cases hspent : l.IsSpent x
  · exact Or.inl ⟨hspent, by rw [h.gone x hx hspent]; rfl⟩
  · refine Or.inr ⟨hspent, ?_⟩
    have hthere := he.there
    rw [← hturns, List.map_map] at hnodup
    obtain heq | ⟨hn, -, -⟩ := h.other (stagingPlace top ++ [x.name])
      (fun y hy hs heq => by
        have hname : x.name = y.name := by simpa using heq
        exact hspent (List.inj_on_of_nodup_map hnodup hy hx hname.symm ▸ hs))
      (fun y _ s _ _ heq => staged_ne_destinationPlace top x.name s heq)
    · rw [heq, hthere]
    · rw [hn] at hthere
      exact absurd hthere (by simp)

theorem isGone_eq_true_iff {x : Taken} (hx : x ∈ turns) :
    l.isGone t x.name = true ↔ l.IsSpent x := by
  obtain ⟨hs, hgone⟩ | ⟨hs, hkind⟩ := h.fate hat hturns hnodup hstaged hx
  · exact iff_of_true hgone hs
  · refine iff_of_false ?_ hs
    unfold isGone
    rw [hkind]
    exact Bool.false_ne_true

/-- **What is reported is the destination of each well-formed file that is
gone.** -/
theorem target?_eq {x : Taken} (hx : x ∈ turns) :
    x.target? = if l.isGone t x.name then l.destination? x.name else none := by
  have hgone := h.isGone_eq_true_iff hat hturns hnodup hstaged hx
  split
  · rename_i hg
    cases hd : l.destination? x.name with
    | some target => exact h.target?_of_isSpent hx (hgone.1 hg) hd
    | none =>
      by_contra hne
      obtain ⟨m, hm⟩ := Option.ne_none_iff_exists'.1 hne
      rw [h.destination?_of_target? hx hm] at hd
      exact absurd hd (by simp)
  · rename_i hg
    by_contra hne
    exact hg (hgone.2 (Or.inr (Option.isSome_iff_ne_none.2 hne)))

/-- **A reported path holds the last of the files that were moved there.** -/
theorem exists_landed {target : Path}
    (htarget : target ∈ turns.filterMap (·.target?)) :
    ∃ earlier e later,
      staged = earlier ++ e :: later ∧ l.destination? e.1 = some target
        ∧ l.isGone t e.1 = true
        ∧ (∀ e' ∈ later, l.destination? e'.1 = some target →
          l.isGone t e'.1 = false)
        ∧ t.kindAt? target = some (.file e.2) := by
  obtain ⟨x, hx, hxt⟩ := List.mem_filterMap.1 htarget
  obtain ⟨s, hs, rfl⟩ := h.target x hx target hxt
  obtain ⟨hl, f, hf, hk⟩ := h.landed x hx s hs hxt
  have hgone := fun {z : Taken} (hz : z ∈ turns) =>
    h.isGone_eq_true_iff hat hturns hnodup hstaged hz
  obtain ⟨earlier, y, later, rfl, hyt, rfl, hlater⟩ := exists_of_landing hf
  have hy : y ∈ earlier ++ y :: later :=
    List.mem_append_right _ List.mem_cons_self
  refine ⟨earlier.map fun x => (x.name, x.file), (y.name, y.file),
    later.map fun x => (x.name, x.file), ?_, h.destination?_of_target? hy hyt,
    (hgone hy).2 (Or.inr (by rw [hyt]; rfl)), ?_, ?_⟩
  · rw [← hturns, List.map_append, List.map_cons]
  · intro e' he' hd
    obtain ⟨z, hz, rfl⟩ := List.mem_map.1 he'
    have hmem : z ∈ earlier ++ y :: later :=
      List.mem_append_right _ (List.mem_cons_of_mem _ hz)
    exact Bool.eq_false_iff.2 fun hg =>
      hlater z hz (h.target?_of_isSpent hmem ((hgone hmem).1 hg) hd)
  · unfold FileTree.kindAt?
    rw [hl]
    exact hk

/-- **A tree that accounts for the turns of all staged files settles
them.** -/
theorem settles
    (hlen : ∀ e ∈ staged, ∀ s, StagingName.ofText e.1 = .ok s →
      Path.isTooLong (FileName.escape s.localeKey) = false) :
    l.Settles staged before t (turns.filterMap (·.target?)) := by
  have hfate := fun {x : Taken} (hx : x ∈ turns) =>
    h.fate hat hturns hnodup hstaged hx
  have hturn : ∀ e ∈ staged, ∃ x ∈ turns, (x.name, x.file) = e :=
    fun e he => List.mem_map.1 (hturns.symm ▸ he)
  have hat' := hat.mono h.keepsDirs
  refine ⟨fun e he hsep => ?_, fun e he hbad => ?_, fun e he target hd => ?_,
    ?_, fun _ => h.exists_landed hat hturns hnodup hstaged, fun q f hq => ?_,
    fun q f hq => ?_, h.keepsDirs, fun q hq => ?_⟩
  · obtain ⟨x, hx, rfl⟩ := hturn e he
    obtain ⟨hs, -⟩ | ⟨-, hkind⟩ := hfate hx
    · rw [h.includes_of_isSpent hx hs] at hsep
      exact absurd hsep (by simp)
    · exact hkind
  · obtain ⟨x, hx, rfl⟩ := hturn e he
    obtain ⟨-, hgone⟩ | ⟨hs, -⟩ := hfate hx
    · exact hgone
    · exact absurd (Or.inl hbad) hs
  · obtain ⟨x, hx, rfl⟩ := hturn e he
    obtain ⟨hs, hgone⟩ | ⟨-, hkind⟩ := hfate hx
    · exact Or.inl ⟨hgone, List.mem_filterMap.2
        ⟨x, hx, h.target?_of_isSpent hx hs hd⟩⟩
    · exact Or.inr hkind
  · rw [← hturns, List.filterMap_map]
    exact List.filterMap_congr fun x hx =>
      h.target?_eq hat hturns hnodup hstaged hx
  -- what each place shows tells about the files and directories elsewhere
  · obtain ⟨-, x, hx, rfl⟩ | ⟨m, hm, hl, -⟩ | heq | ⟨hn, -, -⟩ :=
      h.place_cases q
    · have he := hstaged (x.name, x.file)
        (hturns ▸ List.mem_map.2 ⟨x, hx, rfl⟩)
      exact Or.inl ⟨_, hturns ▸ List.mem_map.2 ⟨x, hx, rfl⟩, he.locate hat⟩
    · exact Or.inr (Or.inl ⟨m, hm, hl⟩)
    · exact Or.inr (Or.inr (heq.trans hq))
    · rw [hn] at hq
      exact absurd hq (by simp)
  · obtain ⟨hn, -⟩ | ⟨m, hm, hl, -⟩ | heq | ⟨-, hd, -⟩ := h.place_cases q
    · rw [hn] at hq
      exact absurd hq (by simp)
    · exact Or.inr ⟨m, hm, hl⟩
    · exact Or.inl (heq.symm.trans hq)
    · rw [hd] at hq
      exact absurd hq (by simp)
  · obtain ⟨hn, -⟩ | ⟨m, -, -, f, hf⟩ | heq | ⟨-, hd, e, he, s, hs, hplace⟩ :=
      h.place_cases q
    · rw [hn] at hq
      exact absurd hq (by simp)
    · rw [hf] at hq
      exact absurd hq (by simp)
    · exact Or.inl (heq.symm.trans hq)
    · refine Or.inr ⟨e, he, s, hs, ?_⟩
      obtain rfl | rfl := hplace
      · exact Or.inl hat'.locate_cacheRoot
      · exact Or.inr (hat'.locate_cachePath (StagingName.localeKey_ne_nil hs)
          (hlen e he s hs) (FileTree.kind?_above (List.cons_ne_nil _ _) hd))

end

end Accounts

/-- **Promoting all staged files settles them**, unless the directory of some
staged file's locale has a path that is too long for the system: that ends the
run, whatever else waits. -/
theorem promoteAll_settles (l : Layout) (v : Volume) (hd : v.denied = {})
    (hw : v.tree.WellNamed)
    (hlen : ∀ e ∈ l.staged v, ∀ s, StagingName.ofText e.1 = .ok s →
      Path.isTooLong (FileName.escape s.localeKey) = false) :
    ((∃ e ∈ l.staged v, Promotion.IsTooDeep l e.1) →
      (l.promoteAll v).value = .error .nameTooLong)
    ∧ ((∀ e ∈ l.staged v, ¬ Promotion.IsTooDeep l e.1) →
      ∃ moved, (l.promoteAll v).value = .ok moved
        ∧ l.Settles (l.staged v) v.tree (l.promoteAll v).tree moved) := by
  have hfiles : (l.stagedFiles v).value
      = (l.staged v).map fun e => l.stagingRoot.child e.1 :=
    value_listFiles v _
  unfold promoteAll
  dsimp only
  rw [hfiles, hd]
  rcases hstaged : l.staged v with - | ⟨e₀, rest⟩
  · refine ⟨?_, fun _ => ⟨[], rfl, Settles.nil l v.tree⟩⟩
    rintro ⟨e, he, -⟩
    exact absurd he List.not_mem_nil
  · obtain ⟨top, hat⟩ := exists_isAt (l := l) (v := v) (e := e₀)
      (hstaged ▸ List.mem_cons_self)
    rw [← hstaged]
    have hreach := fun e (he : e ∈ l.staged v) =>
      isStaged_of_mem_staged hw hat he
    obtain ⟨⟨e, he, hdeep⟩, hfail⟩ | ⟨hno, turns, tree, log, hturns, hrun, hacc⟩
        := Promotion.run_cases hat (fun _ he => he) hreach (nodup_staged l v)
          hlen ⟨v.tree, [], (l.stagedFiles v).log, none⟩ rfl
          (fun _ _ _ hx => absurd hx List.not_mem_nil) rfl
          (Accounts.nil l top (l.staged v) v.tree)
    · rw [hfail]
      exact ⟨fun _ => rfl, fun hno => absurd hdeep (hno e he)⟩
    · rw [hrun]
      refine ⟨fun ⟨e, he, hdeep⟩ => absurd hdeep (hno e he), fun _ => ?_⟩
      exact ⟨_, rfl,
        hacc.settles hat hturns (nodup_staged l v) hreach hlen⟩

/-- A storage with downloads that wait: one to be moved, a malformed one and
one whose name has no separator. -/
def sampleVolume : Volume where
  tree := .dir [(lit "root", .dir [(lit "staging", .dir [
    (lit "en___x", .file ⟨.bytes [1], 0⟩), (lit "en___", .file ⟨.bytes [2], 0⟩),
    (lit "en", .file ⟨.bytes [3], 0⟩)])])]

/-- Its layout. -/
def sample : Layout where
  root := ⟨.relative, [lit "root"]⟩

/-- The names of the sample are names that a directory can show. -/
theorem wellNamed_sampleVolume : sampleVolume.tree.WellNamed := by
  refine FileTree.wellNamed_dir fun e he => ?_
  rw [List.mem_singleton.1 he]
  refine FileTree.isNamed_dir fun e he => ?_
  rw [List.mem_singleton.1 he]
  refine ⟨by decide +kernel, FileTree.isNamed_dir fun e he => ?_⟩
  simp only [List.mem_cons, List.not_mem_nil, or_false] at he
  obtain rfl | rfl | rfl := he
  · exact ⟨by decide +kernel, FileTree.isNamed_file _⟩
  · exact ⟨by decide +kernel, FileTree.isNamed_file _⟩
  · exact ⟨by decide +kernel, FileTree.isNamed_file _⟩

theorem localeKey_sample {name : Text} {s : StagingName}
    (hn : name ∈ [lit "en", lit "en___", lit "en___x"])
    (hs : StagingName.ofText name = .ok s) : s.localeKey = lit "en" := by
  have hkeys : ∀ name ∈ [lit "en", lit "en___", lit "en___x"],
      (StagingName.ofText name).toOption.all (·.localeKey = lit "en") := by
    decide +kernel
  have hkey := hkeys name hn
  rw [hs] at hkey
  exact of_decide_eq_true hkey

/-- The sample is settled as any staged files are that the system does not find
too deep. -/
theorem promoteAll_settles_sample :
    sampleVolume.tree.WellNamed
      ∧ (sample.staged sampleVolume).map (·.1)
          = [lit "en", lit "en___", lit "en___x"]
      ∧ ∃ moved, (sample.promoteAll sampleVolume).value = .ok moved
        ∧ sample.Settles (sample.staged sampleVolume) sampleVolume.tree
            (sample.promoteAll sampleVolume).tree moved := by
  have hw := wellNamed_sampleVolume
  have hnames : (sample.staged sampleVolume).map (·.1)
      = [lit "en", lit "en___", lit "en___x"] := by
    decide +kernel
  have hshort : ∀ e ∈ sample.staged sampleVolume, ∀ s,
      StagingName.ofText e.1 = .ok s →
        Path.isTooLong (FileName.escape s.localeKey) = false
          ∧ (sample.cachePath s.localeKey).isOverlong = false := by
    intro e he s hs
    rw [localeKey_sample (hnames ▸ List.mem_map_of_mem he) hs]
    exact ⟨by decide +kernel, by decide +kernel⟩
  refine ⟨hw, hnames, (promoteAll_settles sample sampleVolume rfl hw
    fun e he s hs => (hshort e he s hs).1).2 ?_⟩
  rintro e he ⟨s, hs, ho⟩
  rw [(hshort e he s hs).2] at ho
  exact absurd ho Bool.false_ne_true

end Layout

end Lexicon
