import Lexicon.Proofs.Staging.Destination
import Lexicon.Proofs.Volume.Removal
import Lexicon.Staging.Promotion

/-!
# What becomes of one staged file

`Turn` says all that can happen to the tree when the turn of a staged file
comes, and which path is reported: a name without separator changes nothing; a
malformed one takes the file away; a well-formed one adds the directories of
its locale, and after that the file has moved to its destination or is where it
was. Where things are denied the only other thing that can happen is that a
malformed file must not be deleted and stays; and whatever stays is reported
(`Passage`, `passage_of_step`).

This is so unless it cannot be told whether the locale of a well-formed file
has its directory. Then its turn changes nothing, and that ends the whole run
(`step_of_isDir_error`).
-/

namespace Lexicon

namespace Layout

/-- The place of the waiting downloads, by the place of the storage root. -/
def stagingPlace (top : Place) : Place :=
  top ++ [stagingName]

/-- **Where a storage is** in a tree: its root leads to a place, and there is a
directory for waiting downloads in it. -/
structure IsAt (l : Layout) (t : FileTree) (top : Place) : Prop where
  /-- The root leads to the place. -/
  root : t.locate l.root = .ok top
  /-- The waiting downloads have their directory. -/
  staging : t.kind? (stagingPlace top) = some .dir

/-- **A staged file** that can be reached. -/
structure IsStaged (l : Layout) (t : FileTree) (top : Place)
    (e : Text × File) : Prop where
  /-- It has a name of its own. -/
  name : Path.IsEntryName e.1
  /-- Its name is not too long. -/
  short : Path.isTooLong e.1 = false
  /-- Its path can be passed on and is not too long. -/
  check : (l.stagingRoot.child e.1).check = .ok ()
  /-- It is there. -/
  there : t.kind? (stagingPlace top ++ [e.1]) = some (.file e.2)

@[simp] theorem stagingName_ne_dotDot : stagingName ≠ Path.dotDot := by decide

@[simp] theorem isTooLong_stagingName : Path.isTooLong stagingName = false := by
  decide +kernel

@[simp] theorem respell_stagingName :
    Utf8.respell stagingName = stagingName := by
  decide +kernel

namespace IsAt

variable {l : Layout} {t t' : FileTree} {top : Place}

theorem mono (h : l.IsAt t top) (hk : t.KeepsDirs t') : l.IsAt t' top :=
  ⟨FileTree.locate_mono hk h.root, hk _ h.staging⟩

theorem kind?_top (h : l.IsAt t top) : t.kind? top = some .dir :=
  FileTree.kind?_above (List.cons_ne_nil _ _) h.staging

theorem locate_stagingRoot (h : l.IsAt t top) :
    t.locate l.stagingRoot = .ok (stagingPlace top) := by
  unfold stagingRoot
  rw [FileTree.locate_child_eq_ok_iff stagingName_ne_dotDot,
    respell_stagingName]
  exact ⟨top, h.root, h.kind?_top, isTooLong_stagingName, rfl⟩

theorem locate_staged (h : l.IsAt t top) {name : Text}
    (hn : Path.IsEntryName name) (hs : Path.isTooLong name = false) :
    t.locate (l.stagingRoot.child name) = .ok (stagingPlace top ++ [name]) := by
  rw [FileTree.locate_child_eq_ok_iff hn.ne_dotDot, hn.respell_eq]
  exact ⟨_, h.locate_stagingRoot, h.staging, hs, rfl⟩

theorem locate_cacheRoot (h : l.IsAt t top) :
    t.locate l.cacheRoot = .ok (cachePlace top) :=
  locate_cache h.root h.kind?_top

theorem locate_cachePath (h : l.IsAt t top) {key : Text} (hk : key ≠ [])
    (hs : Path.isTooLong (FileName.escape key) = false)
    (hd : t.kind? (cachePlace top) = some .dir) :
    t.locate (l.cachePath key) = .ok (inCache top key) := by
  rw [cachePath_eq l hk,
    FileTree.locate_child_eq_ok_iff (FileName.escape_ne_dotDot key),
    FileName.respell_escape]
  exact ⟨_, h.locate_cacheRoot, hd, hs, rfl⟩

end IsAt

namespace IsStaged

variable {l : Layout} {t : FileTree} {top : Place} {e : Text × File}

theorem gains {t' : FileTree} {new : Place → Prop} (h : l.IsStaged t top e)
    (hg : t.Gains t' new) : l.IsStaged t' top e :=
  ⟨h.name, h.short, h.check, hg.kind?_eq h.there⟩

theorem locate (h : l.IsStaged t top e) (hat : l.IsAt t top) :
    t.locate (l.stagingRoot.child e.1) = .ok (stagingPlace top ++ [e.1]) :=
  hat.locate_staged h.name h.short

theorem file? {denied : Denials} (h : l.IsStaged t top e) (hat : l.IsAt t top)
    (hi : denied.inspect (l.stagingRoot.child e.1) = false) :
    (⟨t, denied⟩ : Volume).file? (l.stagingRoot.child e.1) = some e.2 := by
  rw [Volume.file?_eq_some_iff, Volume.node_eq_ok_iff]
  exact ⟨hi, h.check, _, h.locate hat, FileTree.kind?_eq_file_iff.1 h.there⟩

theorem checkText_root (h : l.IsStaged t top e) :
    l.root.checkText = .ok () := by
  have hcheck := (Path.check_eq_ok_iff.1 h.check).1
  exact (Path.checkText_child.1 (Path.checkText_child.1 hcheck).1).1

/-- The destination of a staged file can be passed on. -/
theorem checkText_destination {s : StagingName} (h : l.IsStaged t top e)
    (hs : StagingName.ofText e.1 = .ok s) :
    (l.destination s).checkText = .ok () :=
  Layout.checkText_destination hs h.name (Path.check_eq_ok_iff.1 h.check).1

/-- **It can be told whether the locale of a staged file has its directory**
where nothing is denied and neither the path of that nor its name is too
long. -/
theorem exists_isDir {s : StagingName} (h : l.IsStaged t top e)
    (hat : l.IsAt t top) (hs : StagingName.ofText e.1 = .ok s)
    (hlen : Path.isTooLong (FileName.escape s.localeKey) = false
      ∧ (l.cachePath s.localeKey).isOverlong = false) :
    ∃ answer, (⟨t, {}⟩ : Volume).isDir (l.cachePath s.localeKey)
      = .ok answer :=
  (exists_isDir_cachePath_iff hat.root hat.kind?_top
    (StagingName.localeKey_ne_nil hs) h.checkText_root).2
    ⟨rfl, hlen.2, fun _ => hlen.1⟩

end IsStaged

/-! ## Places apart -/

@[simp] theorem stagingPlace_append_ne (top : Place) (p q : Place) :
    stagingPlace top ++ p ≠ cachePlace top ++ q := by
  intro h
  unfold stagingPlace cachePlace at h
  rw [List.append_assoc, List.append_assoc] at h
  have hnames := List.append_cancel_left h
  rw [List.singleton_append, List.singleton_append] at hnames
  exact absurd (List.cons.inj hnames).1 (by decide)

@[simp] theorem cachePlace_ne_staged (top : Place) (name : Text) :
    cachePlace top ≠ stagingPlace top ++ [name] := fun heq =>
  stagingPlace_append_ne top [name] [] (by rw [List.append_nil, heq])

/-- What waits is at no destination. -/
@[simp] theorem staged_ne_destinationPlace (top : Place) (name : Text)
    (s : StagingName) : stagingPlace top ++ [name] ≠ destinationPlace top s := by
  unfold destinationPlace inCache
  rw [List.append_assoc]
  exact stagingPlace_append_ne top _ _

/-! ## Turns -/

/-- **What can become of a staged file** when its turn comes: the tree after
it, and the path that is reported, if it was moved. -/
inductive Turn (l : Layout) (top : Place) (e : Text × File) (t : FileTree) :
    FileTree → List Path → Prop
  /-- A name without separator is left alone. -/
  | unmarked (hname : e.1.includes separator = false) : Turn l top e t t []
  /-- A malformed name costs the file its life. -/
  | malformed {t' : FileTree} (hname : e.1.includes separator = true)
      (hbad : l.destination? e.1 = none)
      (hview : ∀ q, t'.kind? q
        = if q = stagingPlace top ++ [e.1] then none else t.kind? q) :
      Turn l top e t t' []
  /-- A file that cannot be moved stays. -/
  | left {s : StagingName} {t' : FileTree}
      (hname : StagingName.ofText e.1 = .ok s)
      (hgains : t.Gains t' (IsCacheDir top s.localeKey)) : Turn l top e t t' []
  /-- A file that can be moved is at its destination. -/
  | moved {s : StagingName} {t₁ t' : FileTree}
      (hname : StagingName.ofText e.1 = .ok s)
      (hgains : t.Gains t₁ (IsCacheDir top s.localeKey))
      (hplace : t₁.locate (l.destination s) = .ok (destinationPlace top s))
      (hfree : t₁.kind? (destinationPlace top s) ≠ some .dir)
      (hview : ∀ q, t'.kind? q
        = if q = destinationPlace top s then some (.file e.2)
          else if q = stagingPlace top ++ [e.1] then none else t₁.kind? q) :
      Turn l top e t t' [l.destination s]

/-- **What is reported was moved.** -/
theorem Turn.of_moved {l : Layout} {top : Place} {e : Text × File}
    {t t' : FileTree} {s : StagingName} {target : Path}
    (h : Turn l top e t t' [target]) (hs : StagingName.ofText e.1 = .ok s) :
    ∃ t₁, t.Gains t₁ (IsCacheDir top s.localeKey)
      ∧ t₁.locate (l.destination s) = .ok (destinationPlace top s)
      ∧ ∀ q, t'.kind? q
        = if q = destinationPlace top s then some (.file e.2)
          else if q = stagingPlace top ++ [e.1] then none else t₁.kind? q := by
  generalize hm : [target] = moved at h
  cases h with
  | unmarked => exact absurd hm (List.cons_ne_nil _ _)
  | malformed => exact absurd hm (List.cons_ne_nil _ _)
  | left => exact absurd hm (List.cons_ne_nil _ _)
  | moved hname hgains hplace hfree hview =>
    obtain rfl := Except.ok.inj (hs.symm.trans hname)
    exact ⟨_, hgains, hplace, hview⟩

theorem Turn.kind?_of_moved {l : Layout} {top : Place} {e : Text × File}
    {t t' : FileTree} {s : StagingName} {target : Path}
    (h : Turn l top e t t' [target]) (hs : StagingName.ofText e.1 = .ok s) :
    t'.kind? (stagingPlace top ++ [e.1]) = none := by
  obtain ⟨t₁, -, -, hview⟩ := h.of_moved hs
  rw [hview, if_neg (staged_ne_destinationPlace top e.1 s), if_pos rfl]

/-- **A malformed staged file that must not be deleted.** -/
structure IsStuck (l : Layout) (denied : Denials) (name : Text) : Prop where
  /-- Its name has a separator. -/
  marked : name.includes separator = true
  /-- It leads to no place in the cache. -/
  malformed : l.destination? name = none
  /-- Removing it is denied. -/
  denied : denied.remove (l.stagingRoot.child name) = true

instance (l : Layout) (denied : Denials) (name : Text) :
    Decidable (l.IsStuck denied name) :=
  decidable_of_iff (name.includes separator = true ∧ l.destination? name = none
    ∧ denied.remove (l.stagingRoot.child name) = true)
    ⟨fun ⟨h₁, h₂, h₃⟩ => ⟨h₁, h₂, h₃⟩, fun h => ⟨h.1, h.2, h.3⟩⟩

/-- **A log tells of a staged file that stays**, and why it does. -/
inductive IsTold (l : Layout) (log : Log) (name : Text) : Prop
  /-- Its name has no separator. -/
  | unmarked {e : StagingNameError} (hname : StagingName.ofText name = .error e)
      (hsep : e.missingSeparator = true)
      (htold : ⟨.error, e.message⟩ ∈ log) : IsTold l log name
  /-- It is malformed and was not deleted. -/
  | undeleted {e : FileError} (hsep : name.includes separator = true)
      (hbad : l.destination? name = none)
      (htold : ⟨.error, lit "Could not delete malformed staging file "
        ++ (l.stagingRoot.child name).toText ++ lit ": " ++ e.message⟩ ∈ log) :
      IsTold l log name
  /-- It was not moved. -/
  | unmoved {s : StagingName} {e : FileError}
      (hname : StagingName.ofText name = .ok s)
      (htold : ⟨.error, (PromotionError.move (l.stagingRoot.child name)
        (l.destination s) e).message⟩ ∈ log) : IsTold l log name

theorem IsTold.mono {l : Layout} {log log' : Log} {name : Text}
    (h : l.IsTold log name) (hlog : log ⊆ log') : l.IsTold log' name := by
  cases h with
  | unmarked hname hsep htold => exact .unmarked hname hsep (hlog htold)
  | undeleted hsep hbad htold => exact .undeleted hsep hbad (hlog htold)
  | unmoved hname htold => exact .unmoved hname (hlog htold)

/-- **What the turn of a staged file amounts to** where things are denied: the
trees before and after it, the paths and the lines that it reports. -/
structure Passage (l : Layout) (denied : Denials) (top : Place)
    (e : Text × File) (t t' : FileTree) (moved : List Path) (log : Log) :
    Prop where
  /-- A malformed file that must not be deleted stays. -/
  stuck : l.IsStuck denied e.1 → t' = t ∧ moved = []
  /-- Any other turn goes as if nothing were denied. -/
  turn : ¬ l.IsStuck denied e.1 → Turn l top e t t' moved
  /-- If the file stays, this is reported. -/
  told : t'.kind? (stagingPlace top ++ [e.1]) ≠ none → l.IsTold log e.1
  /-- A well-formed file brings the cache along, if nothing is there. -/
  cache : ∀ s, StagingName.ofText e.1 = .ok s →
    t'.kind? (cachePlace top) ≠ none
  /-- No plain file is new where the directory of a locale is to be. -/
  files : ∀ key f, t'.kind? (inCache top key) = some (.file f) →
    ∃ g, t.kind? (inCache top key) = some (.file g)

section

variable {l : Layout} {denied : Denials} {t : FileTree} {top : Place}
  {e : Text × File} {s : StagingName}

/-- A file with a well-formed name is not stuck. -/
theorem not_isStuck_of_ofText (hs : StagingName.ofText e.1 = .ok s) :
    ¬ l.IsStuck denied e.1 := by
  intro h
  have hbad := h.malformed
  unfold destination? at hbad
  rw [hs] at hbad
  exact absurd hbad (by simp [Except.toOption])

/-- A well-formed file is moved once its directory has been asked for. -/
theorem promote_of_ensureDir {p : Path} {t₁ : FileTree} {log : Log}
    (hs : StagingName.ofText p.name = .ok s)
    (hdir : ensureDir ⟨t, denied⟩ (l.cachePath s.localeKey)
      (lit "locale " ++ s.localeKey) = ⟨t₁, .ok (), log⟩) :
    l.promote ⟨t, denied⟩ p
      = match t₁.rename p (l.destination s) with
        | .ok t' => ⟨t', .ok (l.destination s), log⟩
        | .error error =>
          ⟨t₁, .error (if error.isSystem then .move p (l.destination s) error
            else .file error), log⟩ := by
  unfold promote
  rw [hs]
  dsimp only
  unfold cacheDir
  dsimp only
  rw [hdir]
  rfl

/-- **How a well-formed staged file is promoted**: the directories of its locale
are added, and then it is moved. -/
theorem promote_eq (hat : l.IsAt t top) (he : l.IsStaged t top e)
    (hs : StagingName.ofText e.1 = .ok s)
    (ha : ∃ answer, (⟨t, denied⟩ : Volume).isDir (l.cachePath s.localeKey)
      = .ok answer) :
    ∃ t₁ log, t.Gains t₁ (IsCacheDir top s.localeKey)
      ∧ t₁.kind? (cachePlace top) ≠ none
      ∧ (Path.isTooLong (FileName.escape s.localeKey) = false →
        (∀ f, t.kind? (cachePlace top) ≠ some (.file f)) →
        (∀ f, t.kind? (inCache top s.localeKey) ≠ some (.file f)) →
        t₁.kind? (inCache top s.localeKey) = some .dir)
      ∧ l.promote ⟨t, denied⟩ (l.stagingRoot.child e.1)
        = match t₁.rename (l.stagingRoot.child e.1) (l.destination s) with
          | .ok t' => ⟨t', .ok (l.destination s), log⟩
          | .error error =>
            ⟨t₁, .error (if error.isSystem then
              .move (l.stagingRoot.child e.1) (l.destination s) error
              else .file error), log⟩ := by
  obtain ⟨t₁, log, hdir, hgains, hcache, hthere⟩ :=
    ensureDir_cachePath hat.root hat.kind?_top (StagingName.localeKey_ne_nil hs)
      he.checkText_root ha (lit "locale " ++ s.localeKey)
  exact ⟨t₁, log, hgains, hcache, hthere,
    promote_of_ensureDir (by rw [Path.name_child]; exact hs) hdir⟩

/-- **A file that is moved to where a directory of a locale is to be** takes the
place of another: the directory would have been made first. -/
theorem exists_file_of_locate_destination {t₁ : FileTree} {key : Text}
    (hroot : t₁.locate l.root = .ok top) (hname : Path.IsEntryName e.1)
    (hs : StagingName.ofText e.1 = .ok s)
    (hgains : t.Gains t₁ (IsCacheDir top s.localeKey))
    (hthere : Path.isTooLong (FileName.escape s.localeKey) = false →
      (∀ f, t.kind? (cachePlace top) ≠ some (.file f)) →
      (∀ f, t.kind? (inCache top s.localeKey) ≠ some (.file f)) →
      t₁.kind? (inCache top s.localeKey) = some .dir)
    (hplace : t₁.locate (l.destination s) = .ok (destinationPlace top s))
    (hfree : t₁.kind? (destinationPlace top s) ≠ some .dir)
    (hkey : inCache top key = destinationPlace top s) :
    ∃ g, t.kind? (inCache top key) = some (.file g) := by
  obtain ⟨hown, hpath⟩ := destination_of_inCache (l := l) hs hname hkey
  rw [hkey, hown]
  rw [hpath] at hplace
  rw [hown] at hfree
  obtain ⟨hcache, hshort, -⟩ :=
    of_locate_cachePath (StagingName.localeKey_ne_nil hs) hroot hplace
  by_contra hno
  refine hfree (hthere hshort (fun f hf => ?_) fun f hf => hno ⟨f, hf⟩)
  rw [hgains.kind?_eq hf] at hcache
  exact absurd hcache (by simp)

/-- **Promoting a well-formed staged file** moves it, or is refused by the
system and leaves it. -/
theorem promote_of_ofText (hat : l.IsAt t top) (he : l.IsStaged t top e)
    (hs : StagingName.ofText e.1 = .ok s)
    (ha : ∃ answer, (⟨t, denied⟩ : Volume).isDir (l.cachePath s.localeKey)
      = .ok answer) :
    ∃ t' log, t'.kind? (cachePlace top) ≠ none
      ∧ (∀ key f, t'.kind? (inCache top key) = some (.file f) →
        ∃ g, t.kind? (inCache top key) = some (.file g))
      ∧ ((l.promote ⟨t, denied⟩ (l.stagingRoot.child e.1)
            = ⟨t', .ok (l.destination s), log⟩
          ∧ Turn l top e t t' [l.destination s])
        ∨ ((∃ error, l.promote ⟨t, denied⟩ (l.stagingRoot.child e.1)
            = ⟨t', .error (.move (l.stagingRoot.child e.1) (l.destination s)
                error), log⟩)
          ∧ Turn l top e t t' [])) := by
  obtain ⟨t₁, log, hgains, hcache, hthere, hpromote⟩ := promote_eq hat he hs ha
  have hat₁ := hat.mono hgains.keepsDirs
  have he₁ := he.gains hgains
  have hfiles : ∀ key f, t₁.kind? (inCache top key) = some (.file f) →
      ∃ g, t.kind? (inCache top key) = some (.file g) := by
    intro key f hf
    obtain hsame | ⟨-, hdir, -⟩ := hgains (inCache top key)
    · exact ⟨f, hsame ▸ hf⟩
    · rw [hdir] at hf
      exact absurd hf (by simp)
  rw [hpromote]
  cases hmove : t₁.rename (l.stagingRoot.child e.1) (l.destination s) with
  | error error =>
    have hsystem := FileTree.isSystem_of_rename (Path.check_eq_ok_iff.1 he.check).1
      (he.checkText_destination hs) hmove
    dsimp only
    rw [if_pos hsystem]
    exact ⟨t₁, log, hcache, hfiles,
      Or.inr ⟨⟨error, rfl⟩, .left hs hgains⟩⟩
  | ok t' =>
    obtain ⟨new, hnew, hnamed, hfree, hview⟩ :=
      FileTree.rename_eq_ok hmove (he₁.locate hat₁) he₁.there
    obtain rfl := eq_destinationPlace_of_locate hs he.name hat₁.root hnamed hnew
    refine ⟨t', log, ?_, fun key f hf => ?_,
      Or.inl ⟨rfl, .moved hs hgains hnew hfree hview⟩⟩
    · rw [hview]
      split
      · exact Option.some_ne_none _
      · rw [if_neg (cachePlace_ne_staged top e.1)]
        exact hcache
    · rw [hview] at hf
      split at hf
      · rename_i hkey
        exact exists_file_of_locate_destination hat₁.root he.name hs hgains
          hthere hnew hfree hkey
      · split at hf
        · exact absurd hf (by simp)
        · exact hfiles key f hf

end

end Layout

open Layout

variable {l : Layout} {denied : Denials} {top : Place} {e : Text × File}

namespace Promotion

/-- **The turn of a name that leads to no place in the cache**: the file is left
alone or deleted. -/
theorem step_of_error {run : Promotion} {p : Path} {error : StagingNameError}
    (hf : run.failure? = none) (hname : StagingName.ofText p.name = .error error) :
    step l denied run p
      = if error.missingSeparator then
          ⟨run.tree, run.moved, run.log ++ [⟨.error, error.message⟩], none⟩
        else
          ⟨(discard ⟨run.tree, denied⟩ p).tree, run.moved,
            run.log ++ ([⟨.error, error.message ++ lit ". Deleting."⟩]
              ++ (discard ⟨run.tree, denied⟩ p).log), none⟩ := by
  have hpromote : l.promote ⟨run.tree, denied⟩ p
      = ⟨run.tree, .error (.name error), []⟩ := by
    unfold promote
    rw [hname]
  unfold step
  rw [hf]
  dsimp only [Option.isSome]
  rw [if_neg Bool.false_ne_true, hpromote]
  dsimp only
  rw [List.append_nil, List.append_assoc]

/-- **The turn of a file that is promoted.** -/
theorem step_of_promote {run : Promotion} {p target : Path} {t : FileTree}
    {log : Log} (hf : run.failure? = none)
    (hpromote : l.promote ⟨run.tree, denied⟩ p = ⟨t, .ok target, log⟩) :
    step l denied run p = ⟨t, run.moved ++ [target], run.log ++ log, none⟩ := by
  unfold step
  rw [hf]
  dsimp only [Option.isSome]
  rw [if_neg Bool.false_ne_true, hpromote]

/-- **The turn of a file that cannot be moved.** -/
theorem step_of_refused {run : Promotion} {p source target : Path}
    {error : FileError} {t : FileTree} {log : Log} (hf : run.failure? = none)
    (hpromote : l.promote ⟨run.tree, denied⟩ p
      = ⟨t, .error (.move source target error), log⟩) :
    step l denied run p = ⟨t, run.moved, run.log
      ++ (log ++ [⟨.error, (PromotionError.move source target error).message⟩]),
      none⟩ := by
  unfold step
  rw [hf]
  dsimp only [Option.isSome]
  rw [if_neg Bool.false_ne_true, hpromote]
  dsimp only
  rw [List.append_assoc]

theorem destination?_of_error {name : Text} {error : StagingNameError}
    (hname : StagingName.ofText name = .error error) :
    l.destination? name = none := by
  unfold destination?
  rw [hname]
  rfl

/-- **A name without separator** is passed over. -/
theorem passage_of_unmarked {t : FileTree} {error : StagingNameError}
    (hname : StagingName.ofText e.1 = .error error)
    (hmissing : error.missingSeparator = true) :
    Passage l denied top e t t [] [⟨.error, error.message⟩] where
  stuck _ := ⟨rfl, rfl⟩
  turn _ := by
    rw [StagingName.missingSeparator_of_ofText hname, Bool.not_eq_true']
      at hmissing
    exact .unmarked hmissing
  told _ := .unmarked hname hmissing (List.mem_singleton_self _)
  cache s hs := by
    rw [hname] at hs
    exact absurd hs (by simp)
  files _ f hf := ⟨f, hf⟩

/-- **A malformed file** is deleted, or stuck and reported. -/
theorem passage_of_malformed {t : FileTree} {error : StagingNameError}
    (hat : l.IsAt t top) (he : l.IsStaged t top e)
    (hi : denied.inspect (l.stagingRoot.child e.1) = false)
    (hname : StagingName.ofText e.1 = .error error)
    (hmissing : error.missingSeparator = false) (line : LogLine) :
    Passage l denied top e t
      (discard ⟨t, denied⟩ (l.stagingRoot.child e.1)).tree []
      ([line] ++ (discard ⟨t, denied⟩ (l.stagingRoot.child e.1)).log) := by
  have hbad := destination?_of_error (l := l) hname
  have hill : ∀ s, StagingName.ofText e.1 ≠ .ok s := fun s hs => by
    rw [hname] at hs
    exact absurd hs (by simp)
  rw [StagingName.missingSeparator_of_ofText hname, Bool.not_eq_false']
    at hmissing
  unfold discard
  by_cases hr : denied.remove (l.stagingRoot.child e.1) = true
  · rw [Volume.unlink_of_denied hr]
    exact ⟨fun _ => ⟨rfl, rfl⟩, fun hno => absurd ⟨hmissing, hbad, hr⟩ hno,
      fun _ => .undeleted hmissing hbad
        (List.mem_append_right _ (List.mem_singleton_self _)),
      fun s hs => absurd hs (hill s), fun _ f hf => ⟨f, hf⟩⟩
  · obtain ⟨t', hgone⟩ := Volume.unlink_of_file? (v := ⟨t, denied⟩)
      he.name.ne_dotDot (Bool.eq_false_iff.2 hr) (he.file? hat hi)
    obtain ⟨place, f, hplace, -, hview⟩ := Volume.unlink_eq_ok hgone
    obtain rfl := Except.ok.inj ((he.locate hat).symm.trans hplace)
    rw [hgone]
    refine ⟨fun hstuck => absurd hstuck.denied hr,
      fun _ => .malformed hmissing hbad hview, fun hstays => ?_,
      fun s hs => absurd hs (hill s), fun key f hf => ?_⟩
    · exact absurd ((hview _).trans (if_pos rfl)) hstays
    · have hkept := (hview _).symm.trans hf
      split at hkept
      · exact absurd hkept (by simp)
      · exact ⟨f, hkept⟩

/-- **The turn of a staged file** where things are denied, if nothing ended the
run before and it can be told whether the locale of a well-formed file has its
directory. -/
theorem passage_of_step {run : Promotion} (hf : run.failure? = none)
    (hat : l.IsAt run.tree top) (he : l.IsStaged run.tree top e)
    (hi : denied.inspect (l.stagingRoot.child e.1) = false)
    (ha : ∀ s, StagingName.ofText e.1 = .ok s →
      ∃ answer, (⟨run.tree, denied⟩ : Volume).isDir (l.cachePath s.localeKey)
        = .ok answer) :
    ∃ t moved log, step l denied run (l.stagingRoot.child e.1)
        = ⟨t, run.moved ++ moved, run.log ++ log, none⟩
      ∧ Passage l denied top e run.tree t moved log := by
  cases hname : StagingName.ofText e.1 with
  | error error =>
    rw [step_of_error hf (by rw [Path.name_child]; exact hname)]
    cases hmissing : error.missingSeparator with
    | true =>
      exact ⟨_, [], _, by rw [if_pos rfl, List.append_nil],
        passage_of_unmarked hname hmissing⟩
    | false =>
      exact ⟨_, [], _, by rw [if_neg Bool.false_ne_true, List.append_nil],
        passage_of_malformed hat he hi hname hmissing _⟩
  | ok s =>
    have hfree : ¬ l.IsStuck denied e.1 := not_isStuck_of_ofText hname
    obtain ⟨t', log, hcache, hfiles, ⟨hpromote, hturn⟩ |
      ⟨⟨error, hpromote⟩, hturn⟩⟩ := promote_of_ofText hat he hname (ha s hname)
    · exact ⟨t', [l.destination s], log, step_of_promote hf hpromote,
        fun hstuck => absurd hstuck hfree, fun _ => hturn,
        fun hstays => absurd (hturn.kind?_of_moved hname) hstays,
        fun _ _ => hcache, hfiles⟩
    · exact ⟨t', [], _, by rw [List.append_nil]; exact step_of_refused hf hpromote,
        fun hstuck => absurd hstuck hfree,
        fun _ => hturn, fun _ => .unmoved hname (List.mem_append_right log
          (List.mem_singleton_self
            (⟨.error, (PromotionError.move _ _ error).message⟩ : LogLine))),
        fun _ _ => hcache, hfiles⟩

/-- **The turn of a staged file**, where nothing is denied and nothing ended
the run before. -/
theorem turn_of_step {run : Promotion} (hf : run.failure? = none)
    (hat : l.IsAt run.tree top) (he : l.IsStaged run.tree top e)
    (hlen : ∀ s, StagingName.ofText e.1 = .ok s →
      Path.isTooLong (FileName.escape s.localeKey) = false
        ∧ (l.cachePath s.localeKey).isOverlong = false) :
    ∃ t moved log, step l {} run (l.stagingRoot.child e.1)
        = ⟨t, run.moved ++ moved, log, none⟩
      ∧ Turn l top e run.tree t moved := by
  have hi : ({} : Denials).inspect (l.stagingRoot.child e.1) = false := rfl
  obtain ⟨t, moved, log, hstep, hpassage⟩ :=
    passage_of_step hf hat he hi fun s hs =>
      he.exists_isDir hat hs (hlen s hs)
  exact ⟨t, moved, _, hstep,
    hpassage.turn fun hstuck => absurd hstuck.denied Bool.false_ne_true⟩

/-- **The turn of a file whose directory cannot be told about** changes nothing
and ends the run. -/
theorem step_of_isDir_error {run : Promotion} {p : Path} {s : StagingName}
    {error : FileError} (hf : run.failure? = none)
    (hs : StagingName.ofText p.name = .ok s)
    (hdir : (⟨run.tree, denied⟩ : Volume).isDir (l.cachePath s.localeKey)
      = .error error) :
    step l denied run p = ⟨run.tree, run.moved, run.log, some error⟩ := by
  have hpromote : l.promote ⟨run.tree, denied⟩ p
      = ⟨run.tree, .error (.file error), []⟩ := by
    unfold promote
    rw [hs]
    dsimp only
    unfold cacheDir
    dsimp only
    rw [ensureDir_of_isDir_error hdir]
    rfl
  unfold step
  rw [hf]
  dsimp only [Option.isSome]
  rw [if_neg Bool.false_ne_true, hpromote]
  dsimp only
  rw [List.append_nil]

/-- A well-formed name whose directory has too long a path ends the run, which
leaves the tree as it is. -/
theorem step_of_isOverlong {run : Promotion} {s : StagingName}
    (hf : run.failure? = none) (he : l.IsStaged run.tree top e)
    (hs : StagingName.ofText e.1 = .ok s)
    (ho : (l.cachePath s.localeKey).isOverlong = true) :
    step l {} run (l.stagingRoot.child e.1)
      = ⟨run.tree, run.moved, run.log, some .nameTooLong⟩ :=
  step_of_isDir_error hf (by rw [Path.name_child]; exact hs)
    (isDir_of_isOverlong rfl (checkText_cachePath
      (StagingName.localeKey_ne_nil hs) he.checkText_root) ho)

end Promotion

end Lexicon
