import Lexicon.Proofs.Staging.Fates
import Lexicon.Proofs.Staging.FreeDestination

/-!
# What stops a run of promotions

No staged file is to stand in another's way, whatever is denied: one that
cannot be moved or deleted stays and is reported, and the run goes on to the
next. `Layout.Endures` says what such a run leaves, and every run leaves it
unless a staged file stops it (`promoteAll_endures`).

A file stops the run if nothing can be told about the directory of its locale:
inspecting it is denied, its path is too long, or its name is and the cache is
there to look it up in (`Layout.Stops`). So it depends on the files before it,
since the first that is well-formed brings the cache along
(`Layout.cacheAfter`).

`Progress` is the invariant of the run: the files that must not be deleted are
left out of the history, and what the history tells of the others is accounted
for as if nothing were denied.
-/

namespace Lexicon.Layout

variable {l : Layout} {v : Volume} {top : Place} {e : Text × File}

/-! ## What stops a run -/

/-- **What stands where the cache is to be** after the turns of some staged
files: if nothing stood there, the first well-formed one brings the cache
along. -/
def cacheAfter (l : Layout) (t : FileTree) (earlier : List (Text × File)) :
    Option Kind :=
  (t.kindAt? l.cacheRoot).or
    (if earlier.any fun e => (l.destination? e.1).isSome then some .dir else none)

/-- **Whether a staged file stops the run** after the turns of earlier ones:
nothing can be told about the directory of its locale. -/
def Stops (l : Layout) (v : Volume) (earlier : List (Text × File))
    (name : Text) : Prop :=
  ∃ s, StagingName.ofText name = .ok s
    ∧ (v.denied.inspect (l.cachePath s.localeKey) = true
      ∨ (l.cachePath s.localeKey).isOverlong = true
      ∨ (Path.isTooLong (FileName.escape s.localeKey) = true
        ∧ l.cacheAfter v.tree earlier = some .dir))

/-- **Whether some staged file stops the run.** -/
def IsStopped (l : Layout) (v : Volume) : Prop :=
  ∃ earlier e later, l.staged v = earlier ++ e :: later ∧ l.Stops v earlier e.1

/-- **What a run leaves that no staged file stops**: the tree after it, the
paths that it reports and the log. -/
structure Endures (l : Layout) (v : Volume) (after : FileTree)
    (moved : List Path) (log : Log) : Prop where
  /-- A file that stays is as it was, and the log tells why it does. -/
  left : ∀ e ∈ l.staged v, l.isGone after e.1 = false →
    after.kindAt? (l.stagingRoot.child e.1) = some (.file e.2)
      ∧ l.IsTold log e.1
  /-- A file whose name has no separator stays. -/
  unmarked : ∀ e ∈ l.staged v, e.1.includes separator = false →
    l.isGone after e.1 = false
  /-- A malformed file stays exactly if removing it is denied. -/
  malformed : ∀ e ∈ l.staged v, l.IsMalformed e.1 →
    (l.isGone after e.1 = false
      ↔ v.denied.remove (l.stagingRoot.child e.1) = true)
  /-- A well-formed file whose destination was free when the run began is
  promoted. -/
  free : ∀ e ∈ l.staged v, ∀ s, StagingName.ofText e.1 = .ok s →
    ∀ top, v.tree.locate l.root = .ok top → l.IsFree v.tree top s →
      l.isGone after e.1 = true ∧ l.destination s ∈ moved
  /-- What is reported are the destinations of the well-formed files that are
  gone, in order. -/
  moved_eq : moved = (l.staged v).filterMap fun e =>
    if l.isGone after e.1 then l.destination? e.1 else none
  /-- A reported path holds the last of the files that were moved there. -/
  landed : ∀ target ∈ moved, ∃ earlier e later,
    l.staged v = earlier ++ e :: later ∧ l.destination? e.1 = some target
      ∧ l.isGone after e.1 = true
      ∧ (∀ e' ∈ later, l.destination? e'.1 = some target →
        l.isGone after e'.1 = false)
      ∧ after.kindAt? target = some (.file e.2)

theorem IsAt.kindAt?_staged {t : FileTree} {name : Text} (h : l.IsAt t top)
    (hn : Path.IsEntryName name) (hs : Path.isTooLong name = false) :
    t.kindAt? (l.stagingRoot.child name)
      = t.kind? (stagingPlace top ++ [name]) := by
  unfold FileTree.kindAt?
  rw [h.locate_staged hn hs]
  rfl

theorem IsAt.cacheAfter_eq {t : FileTree} (h : l.IsAt t top)
    (earlier : List (Text × File)) :
    l.cacheAfter t earlier
      = (t.kind? (cachePlace top)).or
        (if earlier.any fun e => (l.destination? e.1).isSome then some .dir
          else none) := by
  unfold cacheAfter FileTree.kindAt?
  rw [h.locate_cacheRoot]
  rfl

/-- One more staged file brings the cache along, if it is well-formed. -/
theorem cacheAfter_concat (l : Layout) (t : FileTree)
    (earlier : List (Text × File)) (e : Text × File) :
    l.cacheAfter t (earlier ++ [e])
      = (l.cacheAfter t earlier).or
        (if (l.destination? e.1).isSome then some .dir else none) := by
  unfold cacheAfter
  rw [Option.or_assoc, List.any_append, List.any_cons, List.any_nil,
    Bool.or_false]
  congr 1
  cases earlier.any fun e => (l.destination? e.1).isSome <;> simp

theorem destination?_of_unmarked {name : Text}
    (h : name.includes separator = false) : l.destination? name = none := by
  refine Option.eq_none_iff_forall_ne_some.2 fun target hd => ?_
  obtain ⟨s, hs, -⟩ := destination?_eq_some_iff.1 hd
  rw [StagingName.includes_of_ofText hs] at h
  exact absurd h (by simp)

/-! ## What a turn leaves alone -/

namespace Turn

variable {t t' : FileTree} {moved : List Path}

/-- **The directories of a turn** are those of the locale. -/
theorem kind?_eq_dir (h : Turn l top e t t' moved) {q : Place}
    (hq : t'.kind? q = some .dir) :
    t.kind? q = some .dir ∨ ∃ key, IsCacheDir top key q := by
  have hgained : ∀ {t₁ : FileTree} {key : Text},
      t.Gains t₁ (IsCacheDir top key) → t₁.kind? q = some .dir →
      t.kind? q = some .dir ∨ ∃ key, IsCacheDir top key q := by
    intro t₁ key hg hd
    obtain hsame | ⟨-, -, hnew⟩ := hg q
    · exact Or.inl (hsame ▸ hd)
    · exact Or.inr ⟨key, hnew⟩
  cases h with
  | unmarked hname => exact Or.inl hq
  | malformed hname hbad hview =>
    rw [hview] at hq
    split at hq
    · exact absurd hq (by simp)
    · exact Or.inl hq
  | left hname hgains => exact hgained hgains hq
  | moved hname hgains hplace hfree hview =>
    rw [hview] at hq
    split at hq
    · exact absurd hq (by simp)
    · split at hq
      · exact absurd hq (by simp)
      · exact hgained hgains hq

/-- **The other staged files** are where they were. -/
theorem kind?_staged (h : Turn l top e t t' moved) {name : Text}
    (hn : name ≠ e.1) :
    t'.kind? (stagingPlace top ++ [name])
      = t.kind? (stagingPlace top ++ [name]) := by
  have hne : stagingPlace top ++ [name] ≠ stagingPlace top ++ [e.1] :=
    fun heq => hn (by simpa using heq)
  have hgained : ∀ {t₁ : FileTree} {s : StagingName},
      StagingName.ofText e.1 = .ok s →
      t.Gains t₁ (IsCacheDir top s.localeKey) →
      t₁.kind? (stagingPlace top ++ [name])
        = t.kind? (stagingPlace top ++ [name]) := by
    intro t₁ s hs hg
    obtain hsame | ⟨-, -, hnew⟩ := hg (stagingPlace top ++ [name])
    · exact hsame
    · exact absurd ⟨e, List.mem_singleton_self e, s, hs, hnew⟩
        (not_isNewDir_staged name)
  cases h with
  | unmarked hname => rfl
  | malformed hname hbad hview => rw [hview, if_neg hne]
  | left hname hgains => exact hgained hname hgains
  | moved hname hgains hplace hfree hview =>
    rw [hview, if_neg (staged_ne_destinationPlace top name _), if_neg hne,
      hgained hname hgains]

end Turn

namespace Passage

variable {denied : Denials} {t t' : FileTree} {moved : List Path} {log : Log}

theorem kind?_staged (h : Passage l denied top e t t' moved log) {name : Text}
    (hn : name ≠ e.1) :
    t'.kind? (stagingPlace top ++ [name])
      = t.kind? (stagingPlace top ++ [name]) := by
  by_cases hstuck : l.IsStuck denied e.1
  · rw [(h.stuck hstuck).1]
  · exact (h.turn hstuck).kind?_staged hn

/-- **What stands where the cache is to be** stays, and a well-formed file
brings the cache along where nothing stands. -/
theorem kind?_cache (h : Passage l denied top e t t' moved log) :
    t'.kind? (cachePlace top)
      = (t.kind? (cachePlace top)).or
        (if (l.destination? e.1).isSome then some .dir else none) := by
  have hnone : l.destination? e.1 = none → t.kind? (cachePlace top)
      = (t.kind? (cachePlace top)).or
        (if (l.destination? e.1).isSome then some .dir else none) := by
    intro hd
    rw [hd, Option.isSome_none, if_neg Bool.false_ne_true, Option.or_none]
  have hgained : ∀ {t₁ : FileTree} {s : StagingName},
      StagingName.ofText e.1 = .ok s →
      t.Gains t₁ (IsCacheDir top s.localeKey) →
      t₁.kind? (cachePlace top) ≠ none →
      t₁.kind? (cachePlace top)
        = (t.kind? (cachePlace top)).or
          (if (l.destination? e.1).isSome then some .dir else none) := by
    intro t₁ s hs hg hne
    rw [destination?_eq_some_iff.2 ⟨s, hs, rfl⟩, Option.isSome_some, if_pos rfl]
    obtain hsame | ⟨hno, hdir, -⟩ := hg (cachePlace top)
    · obtain ⟨k, hk⟩ := Option.ne_none_iff_exists'.1 hne
      rw [← hsame, hk]
      rfl
    · rw [hdir, hno]
      rfl
  have hcache := h.cache
  by_cases hstuck : l.IsStuck denied e.1
  · rw [(h.stuck hstuck).1]
    exact hnone hstuck.malformed
  cases h.turn hstuck with
  | unmarked hname => exact hnone (destination?_of_unmarked hname)
  | malformed hname hbad hview =>
    rw [hview, if_neg (cachePlace_ne_staged top e.1)]
    exact hnone hbad
  | left hname hgains => exact hgained hname hgains (hcache _ hname)
  | moved hname hgains hplace hfree hview =>
    have hkept := hview (cachePlace top)
    rw [if_neg, if_neg (cachePlace_ne_staged top e.1)] at hkept
    · rw [hkept]
      exact hgained hname hgains (hkept ▸ hcache _ hname)
    · intro heq
      have hlength := congrArg List.length heq
      simp [destinationPlace, inCache, cachePlace] at hlength

/-- **A destination that is free** stays free. -/
theorem isFree (h : Passage l denied top e t t' moved log) {s : StagingName}
    (hfree : l.IsFree t top s) : l.IsFree t' top s where
  name := hfree.name
  short := hfree.short
  dirShort := hfree.dirShort
  check := hfree.check
  cache f hf := by
    rw [h.kind?_cache, Option.or_eq_some_iff] at hf
    obtain hf | ⟨-, hf⟩ := hf
    · exact hfree.cache f hf
    · split at hf
      · exact absurd hf (by simp)
      · exact absurd hf (by simp)
  dir f hf := by
    obtain ⟨g, hg⟩ := h.files _ f hf
    exact hfree.dir g hg
  place hdir := by
    by_cases hstuck : l.IsStuck denied e.1
    · rw [(h.stuck hstuck).1] at hdir
      exact hfree.place hdir
    · obtain hdir | ⟨key, hnew⟩ := (h.turn hstuck).kind?_eq_dir hdir
      · exact hfree.place hdir
      · -- the directories of locales lie above
        have hlength := hnew.imp (congrArg List.length) (congrArg List.length)
        simp [inCache, cachePlace] at hlength

end Passage

/-! ## The run -/

/-- **The files that are not stuck.** -/
def unstuck (l : Layout) (denied : Denials) (files : List (Text × File)) :
    List (Text × File) :=
  files.filter fun e => ¬ l.IsStuck denied e.1

@[simp] theorem mem_unstuck_iff {denied : Denials} {files : List (Text × File)} :
    e ∈ l.unstuck denied files ↔ e ∈ files ∧ ¬ l.IsStuck denied e.1 := by
  unfold unstuck
  rw [List.mem_filter, decide_eq_true_iff]

/-- The files that are not stuck are apart and can be reached, as all staged
files. -/
theorem unstuck_staged (hstaged : ∀ e ∈ l.staged v, l.IsStaged v.tree top e) :
    ((l.unstuck v.denied (l.staged v)).map (·.1)).Nodup
      ∧ ∀ e ∈ l.unstuck v.denied (l.staged v), l.IsStaged v.tree top e :=
  ⟨(nodup_staged l v).sublist (List.filter_sublist.map _),
    fun e he => hstaged e (mem_unstuck_iff.1 he).1⟩

/-- **A run that has come so far**: the files that have had their turn, those of
them that are not stuck with where they went, and the run. -/
structure Progress (l : Layout) (v : Volume) (top : Place)
    (done : List (Text × File)) (history : List Taken) (run : Promotion) :
    Prop where
  /-- Nothing has ended it. -/
  failure : run.failure? = none
  /-- It reports what the history tells. -/
  moved : run.moved = history.filterMap (·.target?)
  /-- The history tells of all files but the stuck ones. -/
  turns : history.map (fun x => (x.name, x.file)) = l.unstuck v.denied done
  /-- The history accounts for the tree. -/
  accounts : l.Accounts top (l.unstuck v.denied (l.staged v)) v.tree history
    run.tree
  /-- The first well-formed file brought the cache along. -/
  cache : run.tree.kind? (cachePlace top) = l.cacheAfter v.tree done
  /-- A destination that was free is. -/
  free : ∀ s, l.IsFree v.tree top s → l.IsFree run.tree top s
  /-- What stayed is reported. -/
  told : ∀ e ∈ done, run.tree.kind? (stagingPlace top ++ [e.1]) ≠ none →
    l.IsTold run.log e.1
  /-- What has a free destination is gone. -/
  promoted : ∀ e ∈ done, ∀ s, StagingName.ofText e.1 = .ok s →
    l.IsFree v.tree top s →
    run.tree.kind? (stagingPlace top ++ [e.1]) = none

theorem inspect_of_mem_staged (h : e ∈ l.staged v) :
    v.denied.inspect (l.stagingRoot.child e.1) = false :=
  (Volume.node_eq_ok_iff.1
    (Volume.file?_eq_some_iff.1 (Volume.file?_of_mem_filesIn h))).1

namespace Progress

variable {done : List (Text × File)} {history : List Taken} {run : Promotion}

/-- Before the first turn. -/
theorem nil (hat : l.IsAt v.tree top) (log : Log) :
    l.Progress v top [] [] ⟨v.tree, [], log, none⟩ where
  failure := rfl
  moved := rfl
  turns := rfl
  accounts := .nil l top _ v.tree
  cache := by
    rw [hat.cacheAfter_eq]
    exact Option.or_none.symm
  free _ h := h
  told _ he := absurd he List.not_mem_nil
  promoted _ he := absurd he List.not_mem_nil

theorem isStaged (h : l.Progress v top done history run)
    (he : l.IsStaged v.tree top e) (hfresh : ∀ x ∈ done, x.1 ≠ e.1) :
    l.IsStaged run.tree top e := by
  refine ⟨he.name, he.short, he.check, h.accounts.kind?_staged (fun x hx => ?_)
    he.there⟩
  have hmem : (x.name, x.file) ∈ history.map fun x => (x.name, x.file) :=
    List.mem_map_of_mem hx
  rw [h.turns] at hmem
  exact hfresh _ (mem_unstuck_iff.1 hmem).1

/-- **What stops a run** is that nothing can be told about the directory of the
file's locale when its turn comes. -/
theorem stops_iff (h : l.Progress v top done history run)
    (hat : l.IsAt v.tree top) (he : l.IsStaged v.tree top e) :
    l.Stops v done e.1
      ↔ ∃ s, StagingName.ofText e.1 = .ok s
        ∧ ∃ error, (v.withTree run.tree).isDir (l.cachePath s.localeKey)
          = .error error := by
  refine exists_congr fun s => and_congr_right fun hs => ?_
  have hatrun := hat.mono h.accounts.keepsDirs
  have htell := exists_isDir_cachePath_iff (v := v.withTree run.tree) hatrun.root
    hatrun.kind?_top (StagingName.localeKey_ne_nil hs) he.checkText_root
  have hrefused : (∃ error, (v.withTree run.tree).isDir
        (l.cachePath s.localeKey) = .error error)
      ↔ ¬ ∃ answer, (v.withTree run.tree).isDir (l.cachePath s.localeKey)
        = .ok answer := by
    cases (v.withTree run.tree).isDir (l.cachePath s.localeKey) <;> simp
  rw [hrefused, htell, ← h.cache, not_and_or, not_and_or, Classical.not_imp,
    Bool.not_eq_false, Bool.not_eq_false, Bool.not_eq_false, and_comm]
  rfl

/-- A file that stops the run ends it. -/
theorem exists_failure (h : l.Progress v top done history run)
    (hat : l.IsAt v.tree top) (he : l.IsStaged v.tree top e)
    (hstop : l.Stops v done e.1) :
    ∃ error, (Promotion.step l v.denied run
      (l.stagingRoot.child e.1)).failure? = some error := by
  obtain ⟨s, hs, error, herror⟩ := (h.stops_iff hat he).1 hstop
  have hstep := Promotion.step_of_isDir_error h.failure
    (p := l.stagingRoot.child e.1) (by rw [Path.name_child]; exact hs) herror
  exact ⟨error, congrArg Promotion.failure? hstep⟩

section

variable (h : l.Progress v top done history run) (hat : l.IsAt v.tree top)
  (he : l.IsStaged v.tree top e) (hfresh : ∀ x ∈ done, x.1 ≠ e.1)
  (hgo : ¬ l.Stops v done e.1)
include h hat he hfresh hgo

/-- The turn of a file that does not stop the run. -/
theorem exists_passage
    (hi : v.denied.inspect (l.stagingRoot.child e.1) = false) :
    ∃ t moved log, Promotion.step l v.denied run (l.stagingRoot.child e.1)
        = ⟨t, run.moved ++ moved, run.log ++ log, none⟩
      ∧ Passage l v.denied top e run.tree t moved log := by
  refine Promotion.passage_of_step h.failure (hat.mono h.accounts.keepsDirs)
    (h.isStaged he hfresh) hi fun s hs => ?_
  by_contra hno
  refine hgo ((h.stops_iff hat he).2 ⟨s, hs, ?_⟩)
  cases hdir : (v.withTree run.tree).isDir (l.cachePath s.localeKey) with
  | ok answer => exact absurd ⟨answer, hdir⟩ hno
  | error error => exact ⟨error, rfl⟩

/-- **A file whose destination was free** is gone after its turn. -/
theorem kind?_of_isFree {s : StagingName} (hs : StagingName.ofText e.1 = .ok s)
    (hfree : l.IsFree v.tree top s) :
    (Promotion.step l v.denied run (l.stagingRoot.child e.1)).tree.kind?
      (stagingPlace top ++ [e.1]) = none := by
  have hi : v.denied.inspect (l.cachePath s.localeKey) = false :=
    Bool.eq_false_iff.2 fun hi => hgo ⟨s, hs, Or.inl hi⟩
  obtain ⟨t, log, hpromote, hturn⟩ := promote_of_isFree
    (hat.mono h.accounts.keepsDirs) (h.isStaged he hfresh) hs hi (h.free s hfree)
  rw [Promotion.step_of_promote h.failure hpromote]
  exact hturn.kind?_of_moved hs

/-- **One more turn** of a file that does not stop the run. -/
theorem step (hmem : e ∈ l.staged v) :
    ∃ history', l.Progress v top (done ++ [e]) history'
      (Promotion.step l v.denied run (l.stagingRoot.child e.1)) := by
  have hgone := fun {s : StagingName} => h.kind?_of_isFree hat he hfresh hgo (s := s)
  obtain ⟨t, moved, log, hstep, hpassage⟩ :=
    h.exists_passage hat he hfresh hgo (inspect_of_mem_staged hmem)
  rw [hstep] at hgone ⊢
  have hplace : ∀ x ∈ done, t.kind? (stagingPlace top ++ [x.1])
      = run.tree.kind? (stagingPlace top ++ [x.1]) :=
    fun x hx => hpassage.kind?_staged (hfresh x hx)
  -- a file that is stuck leaves no trace in the history
  obtain ⟨history', hmoved, hturns, haccounts⟩ : ∃ history' : List Taken,
      run.moved ++ moved = history'.filterMap (·.target?)
        ∧ history'.map (fun x => (x.name, x.file))
          = l.unstuck v.denied (done ++ [e])
        ∧ l.Accounts top (l.unstuck v.denied (l.staged v)) v.tree history' t := by
    unfold unstuck
    rw [List.filter_append]
    by_cases hstuck : l.IsStuck v.denied e.1
    · obtain ⟨rfl, rfl⟩ := hpassage.stuck hstuck
      refine ⟨history, by rw [List.append_nil, h.moved], ?_, h.accounts⟩
      rw [List.filter_cons_of_neg (by simpa), List.filter_nil, List.append_nil]
      exact h.turns
    · obtain ⟨target?, rfl, haccounts⟩ := (hpassage.turn hstuck).accounts
        h.accounts (h.isStaged he hfresh) (mem_unstuck_iff.2 ⟨hmem, hstuck⟩)
      refine ⟨_, ?_, ?_, haccounts⟩
      · rw [h.moved, List.filterMap_append]
        cases target? <;> rfl
      · rw [List.map_append, h.turns, List.filter_cons_of_pos (by simpa)]
        rfl
  refine ⟨history', rfl, hmoved, hturns, haccounts, ?_,
    fun s hs => hpassage.isFree (h.free s hs), ?_, ?_⟩
  · rw [cacheAfter_concat, ← h.cache]
    exact hpassage.kind?_cache
  · rw [List.forall_mem_append]
    refine ⟨fun x hx hstays => ?_, fun x hx hstays => ?_⟩
    · rw [hplace x hx] at hstays
      exact (h.told x hx hstays).mono (List.subset_append_left _ _)
    · obtain rfl := List.mem_singleton.1 hx
      exact (hpassage.told hstays).mono (List.subset_append_right _ _)
  · rw [List.forall_mem_append]
    refine ⟨fun x hx s hs hfree => ?_, fun x hx s hs hfree => ?_⟩
    · rw [hplace x hx]
      exact h.promoted x hx s hs hfree
    · obtain rfl := List.mem_singleton.1 hx
      exact hgone hs hfree

end

/-- **The rest of a run**: it comes to its end, or one of the files that are
still to come stops it. -/
theorem run_cases (hat : l.IsAt v.tree top)
    (hstaged : ∀ e ∈ l.staged v, l.IsStaged v.tree top e)
    {todo : List (Text × File)} (hsplit : l.staged v = done ++ todo)
    (h : l.Progress v top done history run) :
    ((∃ between e later, todo = between ++ e :: later
        ∧ l.Stops v (done ++ between) e.1)
      ∧ ∃ error, ((todo.map fun e => l.stagingRoot.child e.1).foldl
        (Promotion.step l v.denied) run).failure? = some error)
    ∨ ((∀ between e later, todo = between ++ e :: later →
        ¬ l.Stops v (done ++ between) e.1)
      ∧ ∃ history', l.Progress v top (l.staged v) history'
        ((todo.map fun e => l.stagingRoot.child e.1).foldl
          (Promotion.step l v.denied) run)) := by
  induction todo generalizing done history run with
  | nil =>
    refine Or.inr ⟨fun between e later hnil => ?_, history, ?_⟩
    · exact absurd hnil.symm (List.append_ne_nil_of_right_ne_nil _
        (List.cons_ne_nil _ _))
    · rw [hsplit, List.append_nil]
      exact h
  | cons e todo ih =>
    have hmem : e ∈ l.staged v :=
      hsplit ▸ List.mem_append_right _ List.mem_cons_self
    have hfresh : ∀ x ∈ done, x.1 ≠ e.1 := by
      intro x hx heq
      have hnodup := nodup_staged l v
      rw [hsplit, List.map_append, List.nodup_append] at hnodup
      exact hnodup.2.2 _ (List.mem_map_of_mem hx) _
        (List.mem_map_of_mem List.mem_cons_self) heq
    rw [List.map_cons, List.foldl_cons]
    by_cases hgo : l.Stops v done e.1
    · obtain ⟨error, hfail⟩ := h.exists_failure hat (hstaged e hmem) hgo
      refine Or.inl ⟨⟨[], e, todo, rfl, by rwa [List.append_nil]⟩, error, ?_⟩
      rw [Promotion.foldl_step_of_failure hfail, hfail]
    · obtain ⟨history', hnext⟩ := h.step hat (hstaged e hmem) hfresh hgo hmem
      obtain ⟨⟨between, e', later, rfl, hstop⟩, hfail⟩ | ⟨hno, hend⟩ :=
        ih (by rw [hsplit, List.append_assoc]; rfl) hnext
      · refine Or.inl ⟨⟨e :: between, e', later, rfl, ?_⟩, hfail⟩
        rwa [List.append_assoc] at hstop
      · refine Or.inr ⟨fun between e' later heq => ?_, hend⟩
        cases between with
        | nil =>
          obtain ⟨rfl, -⟩ := List.cons.inj heq
          rwa [List.append_nil]
        | cons e₀ between =>
          obtain ⟨rfl, hrest⟩ := List.cons.inj heq
          have hgo' := hno between e' later hrest
          rwa [List.append_assoc] at hgo'

/-! ### What the run leaves -/

/-- The files that are not stuck are those of the history. -/
theorem exists_taken (h : l.Progress v top done history run) (he : e ∈ done)
    (hfree : ¬ l.IsStuck v.denied e.1) :
    ∃ x ∈ history, (x.name, x.file) = e := by
  have hmem := mem_unstuck_iff.2 ⟨he, hfree⟩
  rw [← h.turns] at hmem
  exact List.mem_map.1 hmem

section

variable (h : l.Progress v top (l.staged v) history run)
  (hat : l.IsAt v.tree top)
  (hstaged : ∀ e ∈ l.staged v, l.IsStaged v.tree top e)
include h hat hstaged

/-- A file that is stuck is as it was. -/
theorem kindAt?_of_isStuck (he : e ∈ l.staged v)
    (hstuck : l.IsStuck v.denied e.1) :
    run.tree.kindAt? (l.stagingRoot.child e.1) = some (.file e.2) := by
  have hst := hstaged e he
  rw [(hat.mono h.accounts.keepsDirs).kindAt?_staged hst.name hst.short]
  refine h.accounts.kind?_staged (fun x hx heq => ?_) hst.there
  have hmem : (x.name, x.file) ∈ history.map fun x => (x.name, x.file) :=
    List.mem_map_of_mem hx
  rw [h.turns] at hmem
  exact (mem_unstuck_iff.1 hmem).2 (heq ▸ hstuck)

/-- **What is left of a staged file**: nothing, if it is malformed and not stuck
or if it was moved, and otherwise all of it. -/
theorem fate (he : e ∈ l.staged v) :
    (l.isGone run.tree e.1 = true ∧ ¬ l.IsStuck v.denied e.1
        ∧ (l.IsMalformed e.1
          ∨ ∃ target ∈ run.moved, l.destination? e.1 = some target))
      ∨ (l.isGone run.tree e.1 = false
        ∧ run.tree.kindAt? (l.stagingRoot.child e.1) = some (.file e.2)
        ∧ (l.IsMalformed e.1 → l.IsStuck v.denied e.1)) := by
  have hkept : run.tree.kindAt? (l.stagingRoot.child e.1) = some (.file e.2) →
      l.isGone run.tree e.1 = false := fun hkind => by
    unfold isGone
    rw [hkind]
    rfl
  by_cases hstuck : l.IsStuck v.denied e.1
  · have hkind := h.kindAt?_of_isStuck hat hstaged he hstuck
    exact Or.inr ⟨hkept hkind, hkind, fun _ => hstuck⟩
  · obtain ⟨hnodup, hreach⟩ := unstuck_staged hstaged
    obtain ⟨x, hx, rfl⟩ := h.exists_taken he hstuck
    obtain ⟨hspent, hgone⟩ | ⟨hspent, hkind⟩ :=
      h.accounts.fate hat h.turns hnodup hreach hx
    · refine Or.inl ⟨hgone, hstuck, hspent.imp_right fun hsome => ?_⟩
      obtain ⟨target, htarget⟩ := Option.isSome_iff_exists.1 hsome
      refine ⟨target, ?_, h.accounts.destination?_of_target? hx htarget⟩
      rw [h.moved]
      exact List.mem_filterMap.2 ⟨x, hx, htarget⟩
    · exact Or.inr ⟨hkept hkind, hkind, fun hbad => absurd (Or.inl hbad) hspent⟩

/-- **What a run reports** are the destinations of the well-formed files that are
gone. -/
theorem moved_eq : run.moved = (l.staged v).filterMap fun e =>
    if l.isGone run.tree e.1 then l.destination? e.1 else none := by
  obtain ⟨hnodup, hreach⟩ := unstuck_staged hstaged
  have hturns : run.moved = (l.unstuck v.denied (l.staged v)).filterMap fun e =>
      if l.isGone run.tree e.1 then l.destination? e.1 else none := by
    rw [h.moved, ← h.turns, List.filterMap_map]
    exact List.filterMap_congr fun x hx =>
      h.accounts.target?_eq hat h.turns hnodup hreach hx
  rw [hturns, unstuck, List.filterMap_filter]
  refine List.filterMap_congr fun e _ => ?_
  by_cases hstuck : l.IsStuck v.denied e.1
  · rw [if_neg (by simpa), hstuck.malformed, ite_self]
  · rw [if_pos (by simpa)]

/-- **A reported path holds the last of the files that were moved there**, also
among those that are stuck. -/
theorem exists_landed {target : Path} (htarget : target ∈ run.moved) :
    ∃ earlier e later,
      l.staged v = earlier ++ e :: later ∧ l.destination? e.1 = some target
        ∧ l.isGone run.tree e.1 = true
        ∧ (∀ e' ∈ later, l.destination? e'.1 = some target →
          l.isGone run.tree e'.1 = false)
        ∧ run.tree.kindAt? target = some (.file e.2) := by
  obtain ⟨hnodup, hreach⟩ := unstuck_staged hstaged
  rw [h.moved] at htarget
  obtain ⟨earlier, e, later, hsplit, hd, hgone, hlater, hkind⟩ :=
    h.accounts.exists_landed hat h.turns hnodup hreach htarget
  obtain ⟨front, back, hstagedEq, -, hback⟩ := List.filter_eq_append_iff.1 hsplit
  obtain ⟨between, rest, rfl, -, -, hrest⟩ := List.filter_eq_cons_iff.1 hback
  refine ⟨front ++ between, e, rest, by rw [hstagedEq, List.append_assoc], hd,
    hgone, fun e' he' hd' => hlater e' ?_ hd', hkind⟩
  rw [← hrest]
  refine List.mem_filter.2 ⟨he', decide_eq_true fun hstuck => ?_⟩
  rw [hstuck.malformed] at hd'
  exact absurd hd' (by simp)

/-- **A run that has come past all staged files** leaves what it should. -/
theorem endures {log : Log} (hlog : run.log ⊆ log) :
    l.Endures v run.tree run.moved log where
  left e he hstays := by
    obtain ⟨hgone, -⟩ | ⟨-, hkind, -⟩ := h.fate hat hstaged he
    · rw [hstays] at hgone
      exact absurd hgone (by simp)
    · have hst := hstaged e he
      refine ⟨hkind, (h.told e he ?_).mono hlog⟩
      rw [← (hat.mono h.accounts.keepsDirs).kindAt?_staged hst.name hst.short,
        hkind]
      exact Option.some_ne_none _
  unmarked e he hsep := by
    obtain ⟨-, -, ⟨hmarked, -⟩ | ⟨target, -, hd⟩⟩ | ⟨hstays, -⟩ :=
      h.fate hat hstaged he
    · rw [hsep] at hmarked
      exact absurd hmarked (by simp)
    · rw [destination?_of_unmarked hsep] at hd
      exact absurd hd (by simp)
    · exact hstays
  malformed e he hbad := by
    obtain ⟨hgone, hfree, -⟩ | ⟨hstays, -, hstuck⟩ := h.fate hat hstaged he
    · refine iff_of_false (by rw [hgone]; simp) fun hdenied => ?_
      exact hfree ⟨hbad.1, hbad.2, hdenied⟩
    · exact iff_of_true hstays (hstuck hbad).denied
  free e he s hs top' hroot hfree := by
    obtain rfl := Except.ok.inj (hat.root.symm.trans hroot)
    have hst := hstaged e he
    have hd := (destination?_eq_some_iff (l := l)).2 ⟨s, hs, rfl⟩
    obtain ⟨hgone, -, ⟨-, hbad⟩ | ⟨target, htarget, hd'⟩⟩ | ⟨-, hkind, -⟩ :=
      h.fate hat hstaged he
    · rw [hd] at hbad
      exact absurd hbad (by simp)
    · obtain rfl := Option.some.inj (hd.symm.trans hd')
      exact ⟨hgone, htarget⟩
    · rw [(hat.mono h.accounts.keepsDirs).kindAt?_staged hst.name hst.short,
        h.promoted e he s hs hfree] at hkind
      exact absurd hkind (by simp)
  moved_eq := h.moved_eq hat hstaged
  landed _ := h.exists_landed hat hstaged

end

end Progress

theorem Endures.of_staged_eq_nil (h : l.staged v = []) (t : FileTree)
    (log : Log) : l.Endures v t [] log where
  left e he := absurd (h ▸ he) List.not_mem_nil
  unmarked e he := absurd (h ▸ he) List.not_mem_nil
  malformed e he := absurd (h ▸ he) List.not_mem_nil
  free e he := absurd (h ▸ he) List.not_mem_nil
  moved_eq := by rw [h, List.filterMap_nil]
  landed _ hm := absurd hm List.not_mem_nil

/-- **A run goes on past every staged file**, whatever is denied, unless one of
them stops it: then the run is given up, whatever else waits. -/
theorem promoteAll_endures (l : Layout) (v : Volume) (hw : v.tree.WellNamed) :
    (l.IsStopped v → ∃ error, (l.promoteAll v).value = .error error)
    ∧ (¬ l.IsStopped v → ∃ moved, (l.promoteAll v).value = .ok moved
      ∧ l.Endures v (l.promoteAll v).tree moved (l.promoteAll v).log) := by
  have hfiles : (l.stagedFiles v).value
      = (l.staged v).map fun e => l.stagingRoot.child e.1 :=
    value_listFiles v _
  unfold promoteAll
  dsimp only
  rw [hfiles]
  rcases hstaged : l.staged v with - | ⟨e₀, rest⟩
  · refine ⟨?_, fun _ => ⟨[], rfl, .of_staged_eq_nil hstaged _ _⟩⟩
    rintro ⟨earlier, e, later, hsplit, -⟩
    rw [hstaged] at hsplit
    exact absurd hsplit.symm (List.append_ne_nil_of_right_ne_nil _
      (List.cons_ne_nil _ _))
  · obtain ⟨top, hat⟩ := exists_isAt (l := l) (v := v) (e := e₀)
      (hstaged ▸ List.mem_cons_self)
    rw [← hstaged]
    have hreach := fun e (he : e ∈ l.staged v) =>
      isStaged_of_mem_staged hw hat he
    obtain ⟨⟨between, e, later, hsplit, hstop⟩, error, hfail⟩ |
        ⟨hno, history, hend⟩ :=
      Progress.run_cases hat hreach (List.nil_append _).symm
        (Progress.nil hat (l.stagedFiles v).log)
    · rw [hfail]
      refine ⟨fun _ => ⟨error, rfl⟩, fun hno => ?_⟩
      exact absurd ⟨between, e, later, hsplit, hstop⟩ hno
    · rw [hend.failure]
      refine ⟨?_, fun _ => ⟨_, rfl, hend.endures hat hreach
        (List.subset_append_left _ _)⟩⟩
      rintro ⟨earlier, e, later, hsplit, hstop⟩
      exact absurd hstop (hno earlier e later hsplit)

/-- The sample where the directory of a locale must not be inspected. -/
def unseenVolume : Volume where
  tree := sampleVolume.tree
  denied := { inspect := fun p => decide (p = sample.cachePath (lit "en")) }

/-- The sample where no file must be removed. -/
def guardedVolume : Volume where
  tree := sampleVolume.tree
  denied := { remove := fun _ => true }

/-- The first of the two samples stops the run, and the run goes on past all
files of the second. -/
theorem promoteAll_endures_sample :
    sampleVolume.tree.WellNamed
      ∧ (sample.IsStopped unseenVolume
        ∧ ∃ error, (sample.promoteAll unseenVolume).value = .error error)
      ∧ ¬ sample.IsStopped guardedVolume
      ∧ ∃ moved, (sample.promoteAll guardedVolume).value = .ok moved
        ∧ sample.Endures guardedVolume (sample.promoteAll guardedVolume).tree
          moved (sample.promoteAll guardedVolume).log := by
  have hw := wellNamed_sampleVolume
  have hunseen : sample.staged unseenVolume
      = [(lit "en", ⟨.bytes [3], 0⟩), (lit "en___", ⟨.bytes [2], 0⟩)]
        ++ (lit "en___x", ⟨.bytes [1], 0⟩) :: [] := by
    decide +kernel
  have hstopped : sample.IsStopped unseenVolume :=
    ⟨_, _, _, hunseen, ⟨lit "en", lit "x"⟩, rfl, Or.inl (by decide +kernel)⟩
  have hguarded : (sample.staged guardedVolume).map (·.1)
      = [lit "en", lit "en___", lit "en___x"] := by
    decide +kernel
  have hgo : ¬ sample.IsStopped guardedVolume := by
    rintro ⟨earlier, e, later, hsplit, s, hs, hbad⟩
    have hmem : e ∈ sample.staged guardedVolume :=
      hsplit ▸ List.mem_append_right _ List.mem_cons_self
    rw [localeKey_sample (hguarded ▸ List.mem_map_of_mem hmem) hs] at hbad
    obtain hbad | hbad | ⟨hbad, -⟩ := hbad
    · exact absurd hbad Bool.false_ne_true
    · exact absurd hbad (by decide +kernel)
    · exact absurd hbad (by decide +kernel)
  exact ⟨hw, ⟨hstopped, (promoteAll_endures sample unseenVolume hw).1 hstopped⟩,
    hgo, (promoteAll_endures sample guardedVolume hw).2 hgo⟩

end Lexicon.Layout
