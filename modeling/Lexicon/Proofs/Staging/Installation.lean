import Mathlib.Data.List.Nodup
import Lexicon.Proofs.Staging.FreeDestination
import Lexicon.Proofs.Staging.MainName
import Lexicon.Proofs.Volume.Entries

/-!
# Installing the main dictionary of a locale

The way of a main dictionary through a storage that holds nothing else. It is
written where it is to wait (`Layout.StagesMain`), which leaves a storage with
one staged file, and a run of promotions moves it into the cache
(`StagesMain.promoted`). Both states are told by all that the storage shows
(`Layout.Holds`).
-/

namespace Lexicon.Layout

/-- The name under which the main dictionary of a locale waits. -/
def mainFileName (locale : Locale) : Text :=
  stagingFileName (WordListId.ofMain locale) locale.toText

/-- What that name says. -/
def mainName (locale : Locale) : StagingName :=
  ⟨locale.toText, FileName.escape (WordListId.ofMain locale)⟩

/-- **A main dictionary was staged** in an empty storage: the file was written
where the main dictionary of the locale is to wait. -/
structure StagesMain (l : Layout) (v : Volume) (locale : Locale) (f : File)
    (t : FileTree) : Prop where
  /-- The storage was an empty directory. -/
  empty : v.node l.root = .ok (.dir [])
  /-- The file was written. -/
  written : ∃ p,
    (l.stagingFile v (WordListId.ofMain locale) locale.toText).value = .ok p
      ∧ (l.stagingFile v (WordListId.ofMain locale)
        locale.toText).tree.write p f = .ok t

/-- **A storage holds** what is listed by its place in the storage, and nothing
else. -/
structure Holds (l : Layout) (t : FileTree) (top : Place)
    (shown : List (Place × Kind)) : Prop where
  /-- The root leads to the place of the storage. -/
  root : t.locate l.root = .ok top
  /-- What is shown below it is listed. -/
  shows : ∀ q k, q ≠ [] → (t.kind? (top ++ q) = some k ↔ (q, k) ∈ shown)

/-- What a storage holds before its main dictionary is promoted. -/
def waiting (locale : Locale) (f : File) : List (Place × Kind) :=
  [([stagingName], .dir), ([stagingName, mainFileName locale], .file f)]

/-- What it holds afterwards. -/
def installed (locale : Locale) (f : File) : List (Place × Kind) :=
  [([stagingName], .dir), ([cacheName], .dir),
    ([cacheName, FileName.escape locale.toText], .dir),
    ([cacheName, FileName.escape locale.toText,
      FileName.escape (WordListId.ofMain locale)], .file f)]

variable {l : Layout} {v : Volume} {locale : Locale} {f : File} {t : FileTree}
  {top : Place}

@[simp] theorem ofMain_ne_nil (locale : Locale) :
    WordListId.ofMain locale ≠ [] :=
  List.cons_ne_nil _ _

theorem isEntryName_mainFileName (locale : Locale) :
    Path.IsEntryName (mainFileName locale) := by
  refine FileName.isEntryName_escape ?_
  exact List.append_ne_nil_of_right_ne_nil _ (ofMain_ne_nil locale)

theorem Holds.isAt {shown : List (Place × Kind)} (h : l.Holds t top shown)
    (hs : ([stagingName], .dir) ∈ shown) : l.IsAt t top :=
  ⟨h.root, (h.shows _ _ (List.cons_ne_nil _ _)).2 hs⟩

/-! ## The staged file -/

/-- The path at which a main dictionary waits. -/
theorem eq_of_stagingFile {p : Path}
    (h : (l.stagingFile v (WordListId.ofMain locale) locale.toText).value
      = .ok p) : p = l.stagingRoot.child (mainFileName locale) := by
  have hp : ∀ r : Except FileError Unit, (r.map fun _ =>
      l.stagingRoot.appendText (mainFileName locale)) = .ok p →
        p = l.stagingRoot.appendText (mainFileName locale) := by
    rintro (e | u) hr
    · exact absurd hr (by simp [Except.map])
    · exact (Except.ok.inj hr).symm
  rw [hp _ h]
  refine Path.appendText_escape _ ?_
  exact List.append_ne_nil_of_right_ne_nil _ (ofMain_ne_nil locale)

theorem stagingPlace_concat (top : Place) (name : Text) :
    stagingPlace top ++ [name] = top ++ [stagingName, name] :=
  List.append_assoc _ _ _

/-- **Asking where a main dictionary is to wait** leaves an empty storage with
an empty staging directory. -/
theorem holds_stagingFile (locale : Locale)
    (hempty : v.node l.root = .ok (.dir [])) (hd : v.denied = {})
    (hc : l.stagingRoot.check = .ok ()) :
    ∃ top, l.Holds (l.stagingFile v (WordListId.ofMain locale)
      locale.toText).tree top [([stagingName], .dir)] := by
  obtain ⟨-, -, top, hroot, htop⟩ := Volume.node_eq_ok_iff.1 hempty
  have hnone : ∀ q, q ≠ [] → v.tree.kind? (top ++ q) = none := by
    intro q hq
    obtain ⟨name, rest, rfl⟩ := List.exists_cons_of_ne_nil hq
    rw [FileTree.kind?, FileTree.lookup_append, htop]
    rfl
  obtain ⟨t₀, hensure, hgains, hthere⟩ := ensureDir_child (by rw [hd]) hc hroot
    (FileTree.kind?_eq_dir_iff.2 ⟨_, htop⟩)
    ⟨by decide, by decide, stagingName_ne_dotDot, by decide,
      respell_stagingName⟩ isTooLong_stagingName
    (fun f hf => by
      rw [hnone _ (List.cons_ne_nil _ _)] at hf
      exact absurd hf (by simp)) (lit "staging")
  have htree : (l.stagingFile v (WordListId.ofMain locale) locale.toText).tree
      = t₀ := by
    unfold stagingFile stagingRoot
    rw [hensure]
    rfl
  rw [htree]
  refine ⟨top, FileTree.locate_mono hgains.keepsDirs hroot, fun q k hq => ?_⟩
  rw [List.mem_singleton, Prod.mk.injEq]
  by_cases hstaging : q = [stagingName]
  · rw [hstaging, hthere]
    simp [eq_comm]
  · obtain hsame | ⟨-, -, hnew⟩ := hgains (top ++ q)
    · rw [hsame, hnone q hq]
      simp [hstaging]
    · exact absurd (List.append_cancel_left hnew) hstaging

/-- **Staging leaves a storage that holds one staged file.** -/
theorem StagesMain.holds_waiting (h : l.StagesMain v locale f t)
    (hd : v.denied = {}) :
    ∃ top, l.Holds t top (waiting locale f)
      ∧ (l.stagingRoot.child (mainFileName locale)).check = .ok ()
      ∧ Path.isTooLong (mainFileName locale) = false := by
  obtain ⟨p, hp, hw⟩ := h.written
  obtain rfl := eq_of_stagingFile hp
  have hname := isEntryName_mainFileName locale
  obtain ⟨hc, hs, above, ha, hview⟩ :=
    FileTree.write_child_eq_ok hname.ne_dotDot hw
  obtain ⟨top, hholds⟩ := holds_stagingFile locale h.empty hd
    (Path.check_of_check_child hc)
  have hat := hholds.isAt List.mem_cons_self
  obtain rfl := Except.ok.inj (hat.locate_stagingRoot.symm.trans ha)
  rw [hname.respell_eq, stagingPlace_concat] at hview
  have hkeeps : (l.stagingFile v (WordListId.ofMain locale)
      locale.toText).tree.KeepsDirs t := by
    intro q hq
    rw [hview, if_neg, hq]
    rintro rfl
    have hshown := (hholds.shows _ _ (List.cons_ne_nil _ _)).1 hq
    exact absurd hshown (by simp)
  refine ⟨top, ⟨FileTree.locate_mono hkeeps hat.root, fun q k hq => ?_⟩, hc, hs⟩
  rw [hview]
  unfold waiting
  by_cases hfile : q = [stagingName, mainFileName locale]
  · rw [if_pos (congrArg _ hfile), hfile]
    simp [eq_comm]
  · rw [if_neg fun h => hfile (List.append_cancel_left h), hholds.shows q k hq]
    simp [hfile]

namespace Holds

/-- The staged main dictionary is a staged file. -/
theorem isStaged (h : l.Holds t top (waiting locale f))
    (hc : (l.stagingRoot.child (mainFileName locale)).check = .ok ())
    (hs : Path.isTooLong (mainFileName locale) = false) :
    l.IsStaged t top (mainFileName locale, f) where
  name := isEntryName_mainFileName locale
  short := hs
  check := hc
  there := by
    rw [stagingPlace_concat]
    exact (h.shows _ _ (List.cons_ne_nil _ _)).2
      (List.mem_cons_of_mem _ List.mem_cons_self)

/-- **It is the only one.** -/
theorem staged_eq (h : l.Holds t top (waiting locale f)) (hd : v.denied = {})
    (hc : (l.stagingRoot.child (mainFileName locale)).check = .ok ())
    (hs : Path.isTooLong (mainFileName locale) = false) :
    l.staged (v.withTree t) = [(mainFileName locale, f)] := by
  have hl := (h.isAt List.mem_cons_self).locate_stagingRoot
  have hcs : l.stagingRoot.check = .ok () := Path.check_of_check_child hc
  have hname := isEntryName_mainFileName locale
  have hmem : ∀ e ∈ l.staged (v.withTree t), e = (mainFileName locale, f) := by
    rintro ⟨name, g⟩ he
    obtain ⟨hn, hg⟩ := Volume.mem_filesIn_iff.1 he
    obtain ⟨k, hk⟩ := Volume.exists_kind?_of_mem_namesIn hl hn
    rw [stagingPlace_concat] at hk
    have hshown := (h.shows _ _ (List.cons_ne_nil _ _)).1 hk
    obtain ⟨rfl, -⟩ : name = mainFileName locale ∧ k = .file f := by
      simpa [waiting] using hshown
    have hkind := Volume.kind?_of_file? hl hname.ne_dotDot hg
    rw [hname.respell_eq] at hkind
    have hthere := (h.isStaged hc hs).there
    rw [show t.kind? (stagingPlace top ++ [mainFileName locale])
      = some (.file g) from hkind] at hthere
    simpa using hthere
  have hin : (mainFileName locale, f) ∈ l.staged (v.withTree t) :=
    Volume.mem_filesIn hd hl hc hname hs hcs (h.isStaged hc hs).there
  have hnodup := List.Nodup.of_map _ (nodup_staged l (v.withTree t))
  refine List.perm_singleton.1 ((List.perm_ext_iff_of_nodup hnodup
    (List.nodup_singleton _)).2 fun e => ?_)
  rw [List.mem_singleton]
  exact ⟨hmem e, fun he => he ▸ hin⟩

end Holds

/-! ## Its destination -/

theorem mainFileName_eq (hl : locale.IsLegible) :
    mainFileName locale
      = FileName.escape locale.toText
        ++ (separator ++ FileName.escape (WordListId.ofMain locale)) := by
  rw [hl.escape_toText]
  exact hl.stagingFileName_ofMain

/-- **What it says.** -/
theorem ofText_mainFileName (hl : locale.IsLegible) :
    StagingName.ofText (mainFileName locale) = .ok (mainName locale) :=
  hl.ofText_stagingFileName

/-- What that name says is not too long for a name if the name is not. -/
theorem isTooLong_of_mainFileName (hl : locale.IsLegible)
    (hs : Path.isTooLong (mainFileName locale) = false) :
    Path.isTooLong (FileName.escape locale.toText) = false
      ∧ Path.isTooLong (FileName.escape (WordListId.ofMain locale))
        = false := by
  unfold Path.isTooLong at hs ⊢
  rw [mainFileName_eq hl, Utf8.encodeName_append, Utf8.encodeName_append,
    List.length_append, List.length_append] at hs
  rw [decide_eq_false_iff_not] at hs ⊢
  rw [decide_eq_false_iff_not]
  omega

theorem destination_mainName (l : Layout) (hl : locale.IsLegible) :
    l.destination (mainName locale)
      = ((l.root.child cacheName).child (FileName.escape locale.toText)).child
        (FileName.escape (WordListId.ofMain locale)) := by
  unfold destination mainName
  rw [cachePath_eq l hl.toText_ne_nil,
    Path.appendText_escape _ (ofMain_ne_nil locale)]

/-- The path of the destination is not longer than the one at which the file
waits. -/
theorem isOverlong_destination (hl : locale.IsLegible)
    (ho : (l.stagingRoot.child (mainFileName locale)).isOverlong = false) :
    (l.destination (mainName locale)).isOverlong = false := by
  obtain ⟨front, hfront⟩ := Path.exists_toText_child l.root
  have hstaging : (Utf8.encodeName stagingName).length = 7 := by decide +kernel
  have hcache : (Utf8.encodeName cacheName).length = 5 := by decide +kernel
  have hseparator : (Utf8.encodeName separator).length = 3 := by decide +kernel
  have hslash : ∀ name : Text, (Utf8.encodeName (Path.slash :: name)).length
      = 1 + (Utf8.encodeName name).length := by
    intro name
    rw [← List.singleton_append, Utf8.encodeName_append, List.length_append]
    rfl
  unfold Path.isOverlong at ho ⊢
  unfold stagingRoot at ho
  rw [Path.toText_child_child, hfront, mainFileName_eq hl] at ho
  rw [destination_mainName l hl, Path.toText_child_child,
    Path.toText_child_child, hfront]
  simp only [Utf8.encodeName_append, List.length_append, hslash, hstaging,
    hcache, hseparator, decide_eq_false_iff_not] at ho ⊢
  omega

/-- **The destination of a main dictionary that waits alone is free.** -/
theorem Holds.isFree (h : l.Holds t top (waiting locale f))
    (hl : locale.IsLegible)
    (hc : (l.stagingRoot.child (mainFileName locale)).check = .ok ())
    (hs : Path.isTooLong (mainFileName locale) = false) :
    l.IsFree t top (mainName locale) := by
  have hid : Path.IsEntryName (mainName locale).escapedId :=
    FileName.isEntryName_escape (ofMain_ne_nil locale)
  obtain ⟨hshort, hshort'⟩ := isTooLong_of_mainFileName hl hs
  have hnone : ∀ q k, q ≠ [] → (q, k) ∉ waiting locale f →
      t.kind? (top ++ q) ≠ some k :=
    fun q k hq hno hk => hno ((h.shows q k hq).1 hk)
  refine ⟨hid, hshort', hshort, ?_, fun g => ?_, fun g => ?_, ?_⟩
  · have hcheck := (h.isStaged hc hs).checkText_destination
      (ofText_mainFileName hl)
    exact Path.check_eq_ok_iff.2 ⟨hcheck,
      isOverlong_destination hl (Path.check_eq_ok_iff.1 hc).2⟩
  · refine hnone [cacheName] _ (List.cons_ne_nil _ _) ?_
    simp [waiting]
  · rw [inCache, cachePlace, List.append_assoc]
    refine hnone _ _ (List.cons_ne_nil _ _) ?_
    simp [waiting, show cacheName ≠ stagingName by decide]
  · rw [inCache, cachePlace, List.append_assoc, List.append_assoc]
    refine hnone _ _ (List.cons_ne_nil _ _) ?_
    simp [waiting]

/-! ## After the promotion -/

theorem destinationPlace_mainName (top : Place) (locale : Locale) :
    destinationPlace top (mainName locale)
      = top ++ [cacheName, FileName.escape locale.toText,
        FileName.escape (WordListId.ofMain locale)] := by
  have hid := FileName.isEntryName_escape (ofMain_ne_nil locale)
  unfold destinationPlace StagingName.tail inCache cachePlace mainName
  rw [if_neg hid.ne_dot, List.append_assoc, List.append_assoc]
  rfl

/-- **The directories that a move finds** lead to the destination, and there is
nothing else new. -/
theorem Holds.gained {t₁ : FileTree} (h : l.Holds t top (waiting locale f))
    (hfree : l.IsFree t top (mainName locale))
    (hgains : t.Gains t₁ (IsCacheDir top locale.toText))
    (hplace : t₁.locate (l.destination (mainName locale))
      = .ok (destinationPlace top (mainName locale))) :
    l.Holds t₁ top (([cacheName], .dir)
      :: ([cacheName, FileName.escape locale.toText], .dir)
      :: waiting locale f) := by
  have hdir : t₁.kind? (top ++ [cacheName, FileName.escape locale.toText])
      = some .dir := by
    rw [destinationPlace_mainName, hfree.destination_eq,
      FileTree.locate_child_eq_ok_iff hfree.name.ne_dotDot] at hplace
    obtain ⟨above, -, hd, -, heq⟩ := hplace
    rw [hfree.name.respell_eq] at heq
    have habove : top ++ [cacheName, FileName.escape locale.toText] = above :=
      (List.append_inj' (by rw [← heq]; simp [mainName]) rfl).1
    exact habove ▸ hd
  have hcache : t₁.kind? (top ++ [cacheName]) = some .dir := by
    rw [List.append_cons] at hdir
    exact FileTree.kind?_above (List.cons_ne_nil _ _) hdir
  have hne : cacheName ≠ stagingName := by decide
  refine ⟨FileTree.locate_mono hgains.keepsDirs h.root, fun q k hq => ?_⟩
  rw [List.mem_cons, List.mem_cons, Prod.mk.injEq, Prod.mk.injEq]
  by_cases hc : q = [cacheName]
  · rw [hc, hcache]
    simp [waiting, hne, @eq_comm _ k]
  by_cases hd : q = [cacheName, FileName.escape locale.toText]
  · rw [hd, hdir]
    simp [waiting, hne, @eq_comm _ k]
  obtain hsame | ⟨-, -, hnew⟩ := hgains (top ++ q)
  · rw [hsame, h.shows q k hq]
    simp [hc, hd]
  · rw [IsCacheDir, inCache, cachePlace, List.append_assoc] at hnew
    obtain hnew | hnew := hnew
    · exact absurd (List.append_cancel_left hnew) hc
    · exact absurd (List.append_cancel_left hnew) hd

/-- What a move of the main dictionary that waits leaves. -/
theorem Holds.installed {t' : FileTree} {target : Path}
    (h : l.Holds t top (waiting locale f)) (hl : locale.IsLegible)
    (hfree : l.IsFree t top (mainName locale))
    (hturn : Turn l top (mainFileName locale, f) t t' [target]) :
    l.Holds t' top (installed locale f) := by
  obtain ⟨t₁, hgains, hplace, hview⟩ :=
    hturn.of_moved (ofText_mainFileName hl)
  have hgained := h.gained hfree hgains hplace
  rw [destinationPlace_mainName, stagingPlace_concat] at hview
  have hne : cacheName ≠ stagingName := by decide
  have hkeeps : t₁.KeepsDirs t' := by
    intro q hq
    rw [hview, if_neg, if_neg]
    · exact hq
    · rintro rfl
      have hshown := (hgained.shows _ _ (List.cons_ne_nil _ _)).1 hq
      simp [waiting, hne.symm] at hshown
    · rintro rfl
      have hshown := (hgained.shows _ _ (List.cons_ne_nil _ _)).1 hq
      simp [waiting] at hshown
  refine ⟨FileTree.locate_mono hkeeps hgained.root, fun q k hq => ?_⟩
  rw [hview]
  by_cases hdest : q = [cacheName, FileName.escape locale.toText,
      FileName.escape (WordListId.ofMain locale)]
  · rw [if_pos (congrArg _ hdest), hdest]
    simp [Layout.installed, hne, @eq_comm _ k]
  rw [if_neg fun h => hdest (List.append_cancel_left h)]
  by_cases hwait : q = [stagingName, mainFileName locale]
  · rw [if_pos (congrArg _ hwait), hwait]
    simp [Layout.installed, hne.symm]
  rw [if_neg fun h => hwait (List.append_cancel_left h),
    hgained.shows q k hq]
  simp [Layout.installed, waiting, hdest, hwait, or_comm, or_left_comm]

/-- **A main dictionary that was staged is promoted**, and then the storage holds
it in the cache and nothing else. -/
theorem StagesMain.promoted (h : l.StagesMain v locale f t)
    (hd : v.denied = {}) (hl : locale.IsLegible) :
    (l.promoteAll (v.withTree t)).value = .ok [l.destination (mainName locale)]
      ∧ ∃ top, l.IsFree t top (mainName locale)
        ∧ l.Holds (l.promoteAll (v.withTree t)).tree top
          (installed locale f) := by
  obtain ⟨top, hwaiting, hc, hs⟩ := h.holds_waiting hd
  have hfree := hwaiting.isFree hl hc hs
  have hstaged := hwaiting.isStaged hc hs
  obtain ⟨hvalue, hturn⟩ := promoteAll_of_isFree (v := v.withTree t) hd
    (hwaiting.staged_eq hd hc hs) (hwaiting.isAt List.mem_cons_self) hstaged
    (ofText_mainFileName hl) hfree
  exact ⟨hvalue, top, hfree, hwaiting.installed hl hfree hturn⟩

end Lexicon.Layout
