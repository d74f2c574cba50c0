import Lexicon.Proofs.Staging.Endurance
import Lexicon.Proofs.Volume.Entries

/-!
# Promoting once more

Where nothing is denied, a second run of promotions changes nothing and moves
nothing (`promoteAll_again`). A file whose turn has come is at rest
(`Layout.IsAtRest`): it is gone, its name has no separator, or the directories
of its locale have been asked for and its destination still admits no file. The
turns of the other files do not wake it, because they take away nothing but
staged files, and what they add to the cache stands where no directory of its
own is missing (`IsAtRest.turn`). So every file that is left when a run ends is
at rest, or the run ended before its turn: then the same file stops the second
run as well.
-/

namespace Lexicon.Layout

variable {l : Layout} {v : Volume} {t t' : FileTree} {top : Place}
  {e e' : Text × File} {s : StagingName} {moved : List Path}

/-- **A staged file whose turn changes nothing.** -/
inductive IsAtRest (l : Layout) (top : Place) (e : Text × File) (t : FileTree) :
    Prop
  /-- It is gone. -/
  | gone (hgone : t.kind? (stagingPlace top ++ [e.1]) = none) :
      IsAtRest l top e t
  /-- Its name has no separator. -/
  | unmarked (hname : e.1.includes separator = false) : IsAtRest l top e t
  /-- Its directories have been asked for, and it cannot be moved. -/
  | barred {s : StagingName} (hname : StagingName.ofText e.1 = .ok s)
      (hprovided : IsProvided t top s.localeKey)
      (hbarred : ¬ t.Admits (l.destination s)) : IsAtRest l top e t

/-! ## What a turn keeps -/

namespace Turn

/-- **What stands somewhere else** than the staged file is still of its
kind. -/
theorem exists_kind? (h : Turn l top e t t' moved) {q : Place} {k : Kind}
    (hk : t.kind? q = some k) (hq : q ≠ stagingPlace top ++ [e.1]) :
    ∃ k', t'.kind? q = some k' ∧ (k' = .dir ↔ k = .dir) := by
  cases h with
  | unmarked hname => exact ⟨k, hk, Iff.rfl⟩
  | malformed hname hbad hview =>
    exact ⟨k, by rw [hview, if_neg hq, hk], Iff.rfl⟩
  | left hname hgains => exact ⟨k, hgains.kind?_eq hk, Iff.rfl⟩
  | @moved s _ _ hname hgains hplace hfree hview =>
    have hk₁ := hgains.kind?_eq hk
    by_cases hdest : q = destinationPlace top s
    · -- a plain file may take the place of another
      subst hdest
      exact ⟨.file e.2, by rw [hview, if_pos rfl],
        iff_of_false (by simp) fun hdir => hfree (hdir ▸ hk₁)⟩
    · exact ⟨k, by rw [hview, if_neg hdest, if_neg hq, hk₁], Iff.rfl⟩

theorem exists_kind?_cache (h : Turn l top e t t' moved) (rest : Place)
    {k : Kind} (hk : t.kind? (cachePlace top ++ rest) = some k) :
    ∃ k', t'.kind? (cachePlace top ++ rest) = some k'
      ∧ (k' = .dir ↔ k = .dir) :=
  h.exists_kind? hk (stagingPlace_append_ne top [e.1] rest).symm

theorem keepsDirs (h : Turn l top e t t' moved) (he : l.IsStaged t top e) :
    t.KeepsDirs t' := by
  intro q hq
  obtain ⟨k, hk, hdir⟩ := h.exists_kind? hq fun heq => by
    rw [heq, he.there] at hq
    exact absurd hq (by simp)
  rw [hk, hdir.2 rfl]

/-- **What waits after a turn** waited before it. -/
theorem kind?_waiting (h : Turn l top e t t' moved) (he : l.IsStaged t top e)
    (name : Text) :
    t'.kind? (stagingPlace top ++ [name]) = t.kind? (stagingPlace top ++ [name])
      ∨ (t'.kind? (stagingPlace top ++ [name]) = none ∧ name = e.1) := by
  by_cases hn : name = e.1
  · subst hn
    cases h with
    | unmarked hname => exact Or.inl rfl
    | malformed hname hbad hview =>
      exact Or.inr ⟨by rw [hview, if_pos rfl], rfl⟩
    | left hname hgains =>
      exact Or.inl (by rw [hgains.kind?_eq he.there, he.there])
    | moved hname hgains hplace hfree hview =>
      exact Or.inr ⟨by rw [hview, if_neg (staged_ne_destinationPlace top _ _),
        if_pos rfl], rfl⟩
  · exact Or.inl (h.kind?_staged hn)

end Turn

/-- **What stands in the way of a locale's directories**, or is one of them,
stays. -/
theorem IsProvided.turn {key : Text} (hp : IsProvided t top key)
    (h : Turn l top e t t' moved) : IsProvided t' top key := by
  obtain ⟨k, hk⟩ := Option.ne_none_iff_exists'.1 hp.1
  obtain ⟨k', hk', hdir⟩ := h.exists_kind?_cache []
    (by rw [List.append_nil]; exact hk)
  rw [List.append_nil] at hk'
  refine ⟨by rw [hk']; exact Option.some_ne_none k', fun hcache => ?_⟩
  rw [hk', Option.some.injEq, hdir] at hcache
  subst hcache
  obtain ⟨k, hk⟩ := Option.ne_none_iff_exists'.1 (hp.2 hk)
  obtain ⟨k', hk', -⟩ := h.exists_kind?_cache [_] hk
  rw [inCache, hk']
  exact Option.some_ne_none k'

/-- **A destination that admits a file after a turn** admitted it before, if
its directories had been asked for. -/
theorem admits_of_turn (hat : l.IsAt t top) (hat' : l.IsAt t' top)
    (h : Turn l top e t t' moved) (hname : Path.IsEntryName e'.1)
    (hs : StagingName.ofText e'.1 = .ok s) (hp : IsProvided t top s.localeKey)
    (hadmits : t'.Admits (l.destination s)) : t.Admits (l.destination s) := by
  obtain ⟨hcheck, hnamed, place, hplace, hfree⟩ := hadmits
  have hkey := StagingName.localeKey_ne_nil hs
  have hback : ∀ rest, t.kind? (cachePlace top ++ rest) ≠ none →
      t'.kind? (cachePlace top ++ rest) = some .dir →
      t.kind? (cachePlace top ++ rest) = some .dir := by
    intro rest hthere hdir
    obtain ⟨k, hk⟩ := Option.ne_none_iff_exists'.1 hthere
    obtain ⟨k', hk', hiff⟩ := h.exists_kind?_cache rest hk
    rw [hdir, Option.some.injEq] at hk'
    rw [hk, hiff.1 hk'.symm]
  have hcachePath : ∀ above, t'.locate (l.cachePath s.localeKey) = .ok above →
      t.locate (l.cachePath s.localeKey) = .ok above
        ∧ above = inCache top s.localeKey
        ∧ t.kind? (cachePlace top) = some .dir := by
    intro above habove
    obtain ⟨hdir, hshort, rfl⟩ := of_locate_cachePath hkey hat'.root habove
    have hdir' := hback [] (by rw [List.append_nil]; exact hp.1)
      (by rw [List.append_nil]; exact hdir)
    rw [List.append_nil] at hdir'
    exact ⟨hat.locate_cachePath hkey hshort hdir', rfl, hdir'⟩
  -- the destination was found already, since no directory on the way is new
  have hplace₀ : t.locate (l.destination s) = .ok place := by
    unfold destination at hnamed hplace ⊢
    rw [Path.appendText_of_slash_not_mem _
      (StagingName.slash_not_mem_escapedId hs hname.slash_not_mem)]
      at hnamed hplace ⊢
    by_cases hdot : s.escapedId = [] ∨ s.escapedId = Path.dot
    · rw [if_pos hdot] at hplace ⊢
      exact (hcachePath _ hplace).1
    · rw [if_neg hdot] at hnamed hplace ⊢
      have hdd : s.escapedId ≠ Path.dotDot := by
        intro hdd
        rw [hdd] at hnamed
        unfold Path.endsNameless Path.child at hnamed
        simp at hnamed
      rw [FileTree.locate_child_eq_ok_iff hdd] at hplace ⊢
      obtain ⟨above, habove, hdir, hshort, heq⟩ := hplace
      obtain ⟨habove₀, rfl, hcache⟩ := hcachePath _ habove
      exact ⟨_, habove₀, hback [_] (hp.2 hcache) hdir, hshort, heq⟩
  refine ⟨hcheck, hnamed, place, hplace₀, fun hdir => hfree ?_⟩
  obtain rfl := eq_destinationPlace_of_locate hs hname hat.root hnamed hplace₀
  obtain ⟨k, hk, hiff⟩ := h.exists_kind? hdir
    (staged_ne_destinationPlace top e.1 s).symm
  rw [hk, hiff.2 rfl]

/-! ## Files at rest -/

/-- **A file at rest stays at rest** at the turn of another. -/
theorem IsAtRest.turn (hrest : l.IsAtRest top e' t) (hat : l.IsAt t top)
    (hat' : l.IsAt t' top) (h : Turn l top e t t' moved)
    (hname : Path.IsEntryName e'.1) (hne : e'.1 ≠ e.1) :
    l.IsAtRest top e' t' := by
  cases hrest with
  | gone hgone => exact .gone (by rw [h.kind?_staged hne, hgone])
  | unmarked hunmarked => exact .unmarked hunmarked
  | barred hs hprovided hbarred =>
    exact .barred hs (hprovided.turn h)
      (mt (admits_of_turn hat hat' h hname hs hprovided) hbarred)

/-- **What was asked for is provided.** -/
theorem isProvided_of_gains {key : Text}
    (hgains : t.Gains t' (IsCacheDir top key))
    (hcache : t'.kind? (cachePlace top) ≠ none)
    (hthere : (∀ f, t.kind? (cachePlace top) ≠ some (.file f)) →
      (∀ f, t.kind? (inCache top key) ≠ some (.file f)) →
      t'.kind? (inCache top key) = some .dir) :
    IsProvided t' top key := by
  refine ⟨hcache, fun hdir hnone => ?_⟩
  rw [hthere (fun f hf => ?_) (fun f hf => ?_)] at hnone
  · exact absurd hnone (Option.some_ne_none _)
  · rw [hgains.kind?_eq hf] at hdir
    exact absurd hdir (by simp)
  · rw [hgains.kind?_eq hf] at hnone
    exact absurd hnone (Option.some_ne_none _)

/-- **A file that was asked for its directories and not moved** is at rest. -/
theorem isAtRest_of_refused (hat : l.IsAt t top) (he : l.IsStaged t top e)
    (hs : StagingName.ofText e.1 = .ok s)
    (hprovided : IsProvided t top s.localeKey) {error : FileError}
    (hrefused : t.rename (l.stagingRoot.child e.1) (l.destination s)
      = .error error) : l.IsAtRest top e t := by
  refine .barred hs hprovided fun hadmits => ?_
  obtain ⟨t', hmove⟩ := (FileTree.exists_rename_iff he.check
    (Path.endsNameless_child he.name.ne_dotDot) (he.locate hat) he.there).2
    hadmits
  rw [hmove] at hrefused
  exact absurd hrefused (by simp)

/-- **Promoting a file at rest** is refused, and leaves the tree as it is. -/
theorem promote_of_barred (hat : l.IsAt t top) (he : l.IsStaged t top e)
    (hs : StagingName.ofText e.1 = .ok s)
    (ha : ∃ answer, (⟨t, {}⟩ : Volume).isDir (l.cachePath s.localeKey)
      = .ok answer)
    (hprovided : IsProvided t top s.localeKey)
    (hbarred : ¬ t.Admits (l.destination s)) :
    ∃ error log, l.promote ⟨t, {}⟩ (l.stagingRoot.child e.1)
      = ⟨t, .error (.move (l.stagingRoot.child e.1) (l.destination s) error),
        log⟩ := by
  obtain ⟨log, hdir⟩ := ensureDir_of_isProvided hat.root hat.kind?_top
    (StagingName.localeKey_ne_nil hs) he.checkText_root ha hprovided
    (lit "locale " ++ s.localeKey)
  cases hmove : t.rename (l.stagingRoot.child e.1) (l.destination s) with
  | ok t' =>
    exact absurd ((FileTree.exists_rename_iff he.check
      (Path.endsNameless_child he.name.ne_dotDot) (he.locate hat) he.there).1
      ⟨t', hmove⟩) hbarred
  | error error =>
    have hsystem := FileTree.isSystem_of_rename
      (Path.check_eq_ok_iff.1 he.check).1 (he.checkText_destination hs) hmove
    refine ⟨error, log, ?_⟩
    rw [promote_of_ensureDir (by rw [Path.name_child]; exact hs) hdir, hmove]
    dsimp only
    rw [if_pos hsystem]

end Lexicon.Layout

namespace Lexicon.Promotion

open Layout

variable {l : Layout} {top : Place} {e : Text × File} {run : Promotion}

section

variable (hf : run.failure? = none) (hat : l.IsAt run.tree top)
  (he : l.IsStaged run.tree top e)
  (hlen : ∀ s, StagingName.ofText e.1 = .ok s →
    Path.isTooLong (FileName.escape s.localeKey) = false
      ∧ (l.cachePath s.localeKey).isOverlong = false)
include hf hat he hlen

/-- **After its turn a staged file is at rest.** -/
theorem isAtRest_of_step :
    ∃ t moved log, step l {} run (l.stagingRoot.child e.1)
        = ⟨t, run.moved ++ moved, log, none⟩
      ∧ Turn l top e run.tree t moved ∧ l.IsAtRest top e t := by
  obtain ⟨t, moved, log, hstep, hturn⟩ := turn_of_step hf hat he hlen
  refine ⟨t, moved, log, hstep, hturn, ?_⟩
  cases hturn with
  | unmarked hname => exact .unmarked hname
  | malformed hname hbad hview => exact .gone (by rw [hview, if_pos rfl])
  | moved hname hgains hplace hfree hview =>
    exact .gone (by rw [hview, if_neg (staged_ne_destinationPlace top _ _),
      if_pos rfl])
  | @left s _ hs _ =>
    obtain ⟨t₁, log₁, hgains, hcache, hthere, hpromote⟩ :=
      promote_eq hat he hs (he.exists_isDir hat hs (hlen s hs))
    cases hmove : t₁.rename (l.stagingRoot.child e.1) (l.destination s) with
    | ok t' =>
      -- then the path would be reported
      rw [hmove] at hpromote
      rw [step_of_promote hf hpromote] at hstep
      have hmoved := congrArg Promotion.moved hstep
      simp at hmoved
    | error error =>
      have hsystem := FileTree.isSystem_of_rename
        (Path.check_eq_ok_iff.1 he.check).1 (he.checkText_destination hs) hmove
      rw [hmove] at hpromote
      dsimp only at hpromote
      rw [if_pos hsystem] at hpromote
      rw [step_of_refused hf hpromote] at hstep
      obtain rfl : t₁ = t := congrArg Promotion.tree hstep
      exact isAtRest_of_refused (hat.mono hgains.keepsDirs) (he.gains hgains) hs
        (isProvided_of_gains hgains hcache (hthere (hlen s hs).1)) hmove

/-- **The turn of a file at rest** changes nothing. -/
theorem step_of_isAtRest (hrest : l.IsAtRest top e run.tree) :
    ∃ log, step l {} run (l.stagingRoot.child e.1)
      = ⟨run.tree, run.moved, log, none⟩ := by
  cases hrest with
  | gone hgone =>
    rw [he.there] at hgone
    exact absurd hgone (by simp)
  | unmarked hname =>
    cases hread : StagingName.ofText e.1 with
    | ok s =>
      rw [StagingName.includes_of_ofText hread] at hname
      exact absurd hname (by simp)
    | error error =>
      have hmissing : error.missingSeparator = true := by
        rw [StagingName.missingSeparator_of_ofText hread, hname]
        rfl
      rw [step_of_error hf (by rw [Path.name_child]; exact hread),
        if_pos hmissing]
      exact ⟨_, rfl⟩
  | barred hs hprovided hbarred =>
    obtain ⟨error, log, hpromote⟩ := promote_of_barred hat he hs
      (he.exists_isDir hat hs (hlen _ hs)) hprovided hbarred
    rw [step_of_refused hf hpromote]
    exact ⟨_, rfl⟩

end

/-- **A run over files at rest** changes nothing and moves nothing. -/
theorem foldl_step_of_isAtRest (run : Promotion) {files : List (Text × File)}
    (hf : run.failure? = none) (hat : l.IsAt run.tree top)
    (hfiles : ∀ e ∈ files, l.IsStaged run.tree top e
      ∧ l.IsAtRest top e run.tree ∧ ∀ s, StagingName.ofText e.1 = .ok s →
        Path.isTooLong (FileName.escape s.localeKey) = false
          ∧ (l.cachePath s.localeKey).isOverlong = false) :
    ∃ log, (files.map fun e => l.stagingRoot.child e.1).foldl (step l {}) run
      = ⟨run.tree, run.moved, log, none⟩ := by
  induction files generalizing run with
  | nil => exact ⟨run.log, by rw [← hf]; rfl⟩
  | cons e files ih =>
    obtain ⟨⟨he, hrest, hlen⟩, hfiles⟩ := List.forall_mem_cons.1 hfiles
    obtain ⟨log, hstep⟩ := step_of_isAtRest hf hat he hlen hrest
    rw [List.map_cons, List.foldl_cons, hstep]
    exact ih _ rfl hat hfiles

end Lexicon.Promotion

namespace Lexicon.Layout

variable {l : Layout} {v : Volume} {t t' : FileTree} {top : Place}
  {e : Text × File} {moved : List Path} {done : List (Text × File)}

/-! ## The first run -/

/-- **A tree at rest** but for the files whose turn is still to come. -/
structure Rests (l : Layout) (v : Volume) (top : Place)
    (done : List (Text × File)) (t : FileTree) : Prop where
  /-- The storage is where it was. -/
  isAt : l.IsAt t top
  /-- What waits is what waited, and gone is only what has had its turn. -/
  waiting : ∀ name,
    t.kind? (stagingPlace top ++ [name])
        = v.tree.kind? (stagingPlace top ++ [name])
      ∨ (t.kind? (stagingPlace top ++ [name]) = none
        ∧ name ∈ done.map (·.1))
  /-- What has had its turn is at rest. -/
  rest : ∀ e ∈ done, l.IsAtRest top e t

namespace Rests

theorem nil (hat : l.IsAt v.tree top) : l.Rests v top [] v.tree where
  isAt := hat
  waiting _ := Or.inl rfl
  rest _ he := absurd he List.not_mem_nil

/-- A file that is still there waits as it did. -/
theorem isStaged_of_ne_none (h : l.Rests v top done t)
    (he : l.IsStaged v.tree top e)
    (hthere : t.kind? (stagingPlace top ++ [e.1]) ≠ none) :
    l.IsStaged t top e := by
  refine ⟨he.name, he.short, he.check, ?_⟩
  obtain hsame | ⟨hnone, -⟩ := h.waiting e.1
  · rw [hsame, he.there]
  · exact absurd hnone hthere

/-- A file whose turn has not come is still there. -/
theorem isStaged (h : l.Rests v top done t) (he : l.IsStaged v.tree top e)
    (hfresh : e.1 ∉ done.map (·.1)) : l.IsStaged t top e := by
  refine h.isStaged_of_ne_none he fun hnone => ?_
  obtain hsame | ⟨-, hmem⟩ := h.waiting e.1
  · rw [hsame, he.there] at hnone
    exact absurd hnone (Option.some_ne_none _)
  · exact absurd hmem hfresh

/-- **One more turn.** -/
theorem turn (h : l.Rests v top done t) (he : l.IsStaged t top e)
    (hdone : ∀ x ∈ done, Path.IsEntryName x.1)
    (hfresh : e.1 ∉ done.map (·.1)) (hturn : Turn l top e t t' moved)
    (hrest : l.IsAtRest top e t') : l.Rests v top (done ++ [e]) t' where
  isAt := h.isAt.mono (hturn.keepsDirs he)
  waiting name := by
    rw [List.map_append, List.mem_append]
    obtain hsame | ⟨hnone, rfl⟩ := hturn.kind?_waiting he name
    · rw [hsame]
      exact (h.waiting name).imp_right fun ⟨hnone, hmem⟩ =>
        ⟨hnone, Or.inl hmem⟩
    · exact Or.inr ⟨hnone, Or.inr (List.mem_singleton_self _)⟩
  rest := by
    rw [List.forall_mem_append]
    refine ⟨fun x hx => ?_, fun x hx => List.mem_singleton.1 hx ▸ hrest⟩
    exact (h.rest x hx).turn h.isAt (h.isAt.mono (hturn.keepsDirs he)) hturn
      (hdone x hx) fun heq => hfresh (List.mem_map.2 ⟨x, hx, heq⟩)

end Rests

/-- **A run leaves a tree at rest** for the files up to the first whose
directory has too long a path, if there is one. -/
theorem rests_of_run
    (hstaged : ∀ e ∈ l.staged v, l.IsStaged v.tree top e)
    (hlen : ∀ e ∈ l.staged v, ∀ s, StagingName.ofText e.1 = .ok s →
      Path.isTooLong (FileName.escape s.localeKey) = false)
    {todo : List (Text × File)} (hsplit : l.staged v = done ++ todo)
    (run : Promotion) (hf : run.failure? = none)
    (h : l.Rests v top done run.tree) :
    ∃ taken left, todo = taken ++ left
      ∧ (∀ e ∈ taken, ¬ Promotion.IsTooDeep l e.1)
      ∧ (∀ e ∈ left.head?, Promotion.IsTooDeep l e.1)
      ∧ l.Rests v top (done ++ taken)
        ((todo.map fun e => l.stagingRoot.child e.1).foldl
          (Promotion.step l {}) run).tree := by
  induction todo generalizing done run with
  | nil =>
    refine ⟨[], [], rfl, fun _ he => absurd he List.not_mem_nil,
      fun _ he => absurd he (by simp), ?_⟩
    rw [List.append_nil]
    exact h
  | cons e todo ih =>
    have hmem : e ∈ l.staged v :=
      hsplit ▸ List.mem_append_right _ List.mem_cons_self
    have hnodup := nodup_staged l v
    rw [hsplit, List.map_append, List.map_cons] at hnodup
    have hfresh : e.1 ∉ done.map (·.1) := fun hmem =>
      (List.nodup_append.1 hnodup).2.2 _ hmem _ List.mem_cons_self rfl
    have he := h.isStaged (hstaged e hmem) hfresh
    rw [List.map_cons, List.foldl_cons]
    by_cases hdeep : Promotion.IsTooDeep l e.1
    · obtain ⟨s, hs, ho⟩ := id hdeep
      refine ⟨[], e :: todo, rfl, fun _ he => absurd he List.not_mem_nil,
        fun x hx => Option.some.inj hx ▸ hdeep, ?_⟩
      rw [Promotion.step_of_isOverlong hf he hs ho,
        Promotion.foldl_step_of_failure rfl, List.append_nil]
      exact h
    · obtain ⟨t, moved, log, hstep, hturn, hrest⟩ :=
        Promotion.isAtRest_of_step hf h.isAt he fun s hs =>
          ⟨hlen e hmem s hs, Bool.eq_false_iff.2 fun ho => hdeep ⟨s, hs, ho⟩⟩
      have hdone : ∀ x ∈ done, Path.IsEntryName x.1 := fun x hx =>
        (hstaged x (hsplit ▸ List.mem_append_left _ hx)).name
      rw [hstep]
      obtain ⟨taken, left, rfl, htaken, hleft, hrests⟩ := ih
        (by rw [hsplit, List.append_assoc]; rfl)
        ⟨t, run.moved ++ moved, log, none⟩ rfl
        (h.turn he hdone hfresh hturn hrest)
      refine ⟨e :: taken, left, rfl, List.forall_mem_cons.2 ⟨hdeep, htaken⟩,
        hleft, ?_⟩
      rw [List.append_assoc] at hrests
      exact hrests

/-! ## The second run -/

theorem isEntryName_of_waiting {name : Text} {k : Kind} (hw : v.tree.WellNamed)
    (hk : v.tree.kind? (stagingPlace top ++ [name]) = some k) :
    Path.IsEntryName name := by
  obtain ⟨entries, hes⟩ := FileTree.kind?_eq_dir_iff.1
    (FileTree.kind?_above (List.cons_ne_nil _ _) hk)
  refine hw.isEntryName (List.append_ne_nil_of_right_ne_nil _
    (List.cons_ne_nil _ _)) hes ?_
  rw [FileTree.mem_names_iff hes, hk]
  rfl

/-- **Where something waits as it did**, it is shown as it was. -/
theorem file?_staged_congr {name : Text} (hat : l.IsAt v.tree top)
    (hat' : l.IsAt t top) (hn : Path.IsEntryName name)
    (hsame : t.kind? (stagingPlace top ++ [name])
      = v.tree.kind? (stagingPlace top ++ [name])) :
    (v.withTree t).file? (l.stagingRoot.child name)
      = v.file? (l.stagingRoot.child name) := by
  have hplace : ∀ {t' : FileTree} {q : Place}, l.IsAt t' top →
      (t'.locate (l.stagingRoot.child name) = .ok q
        ↔ Path.isTooLong name = false ∧ q = stagingPlace top ++ [name]) := by
    intro t' q h
    rw [FileTree.locate_child_eq_ok_iff hn.ne_dotDot, hn.respell_eq]
    constructor
    · rintro ⟨above, ha, -, hs, rfl⟩
      obtain rfl := Except.ok.inj (h.locate_stagingRoot.symm.trans ha)
      exact ⟨hs, rfl⟩
    · rintro ⟨hs, rfl⟩
      exact ⟨_, h.locate_stagingRoot, h.staging, hs, rfl⟩
  refine Option.ext fun f => ?_
  rw [Volume.file?_eq_some_iff_kind?, Volume.file?_eq_some_iff_kind?]
  refine and_congr_right fun _ => and_congr_right fun _ =>
    exists_congr fun q => ?_
  rw [show (v.withTree t).tree = t from rfl, hplace hat', hplace hat]
  refine and_congr_right fun ⟨_, hq⟩ => ?_
  rw [hq, hsame]

/-- **What waits in a tree at rest** are those of the staged files that are
still there. -/
theorem Rests.staged_eq (h : l.Rests v top done t) (hw : v.tree.WellNamed)
    (hat : l.IsAt v.tree top) :
    l.staged (v.withTree t) = (l.staged v).filter fun e =>
      (t.kind? (stagingPlace top ++ [e.1])).isSome := by
  unfold staged Volume.filesIn
  rw [List.filter_filterMap]
  refine Volume.filterMap_namesIn_of_subset (fun name hname => ?_)
    (fun name hname => ?_) fun name hname hlost => ?_
  · obtain ⟨hlist, hi, hc, place, hl, hthere⟩ := Volume.mem_namesIn_iff.1 hname
    obtain rfl := Except.ok.inj (h.isAt.locate_stagingRoot.symm.trans hl)
    refine Volume.mem_namesIn_iff.2
      ⟨hlist, hi, hc, _, hat.locate_stagingRoot, ?_⟩
    obtain hsame | ⟨hnone, -⟩ := h.waiting name
    · rwa [← hsame]
    · exact absurd hnone hthere
  · obtain ⟨-, -, -, place, hl, hthere⟩ := Volume.mem_namesIn_iff.1 hname
    obtain rfl := Except.ok.inj (h.isAt.locate_stagingRoot.symm.trans hl)
    have hsame := (h.waiting name).resolve_right fun ⟨hnone, _⟩ => hthere hnone
    obtain ⟨k, hk⟩ := Option.ne_none_iff_exists'.1 hthere
    have hsome : (t.kind? (stagingPlace top ++ [name])).isSome = true :=
      Option.isSome_iff_ne_none.2 hthere
    rw [file?_staged_congr hat h.isAt
      (isEntryName_of_waiting hw (hsame.symm.trans hk)) hsame]
    cases v.file? (l.stagingRoot.child name) with
    | none => rfl
    | some f =>
      rw [Option.map_some, Option.filter_some_pos]
      exact hsome
  · have hnone : t.kind? (stagingPlace top ++ [name]) = none := by
      by_contra hthere
      obtain ⟨hlist, hi, hc, -⟩ := Volume.mem_namesIn_iff.1 hname
      exact hlost (Volume.mem_namesIn_iff.2
        ⟨hlist, hi, hc, _, h.isAt.locate_stagingRoot, hthere⟩)
    cases v.file? (l.stagingRoot.child name) with
    | none => rfl
    | some f => exact Option.filter_some_neg (by rw [hnone]; simp)

/-- **A second run over a tree at rest** changes nothing, and moves nothing or
is stopped by the first file whose turn is still to come. -/
theorem promoteAll_of_rests {left : List (Text × File)} (hd : v.denied = {})
    (hw : v.tree.WellNamed) (hat : l.IsAt v.tree top)
    (hstaged : ∀ e ∈ l.staged v, l.IsStaged v.tree top e)
    (hsplit : l.staged v = done ++ left)
    (hdone : ∀ e ∈ done, ∀ s, StagingName.ofText e.1 = .ok s →
      Path.isTooLong (FileName.escape s.localeKey) = false
        ∧ (l.cachePath s.localeKey).isOverlong = false)
    (hleft : ∀ e ∈ left.head?, Promotion.IsTooDeep l e.1)
    (h : l.Rests v top done t) :
    (l.promoteAll (v.withTree t)).tree = t
      ∧ (l.promoteAll (v.withTree t)).value
        = if left.isEmpty then .ok [] else .error .nameTooLong := by
  have hnodup := nodup_staged l v
  rw [hsplit, List.map_append] at hnodup
  have hfresh : ∀ e ∈ left, e.1 ∉ done.map (·.1) := fun e he hmem =>
    (List.nodup_append.1 hnodup).2.2 _ hmem _ (List.mem_map_of_mem he) rfl
  have hleftThere : ∀ e ∈ left, l.IsStaged t top e := fun e he =>
    h.isStaged (hstaged e (hsplit ▸ List.mem_append_right _ he)) (hfresh e he)
  have hfiles : (l.stagedFiles (v.withTree t)).value
      = (l.staged (v.withTree t)).map fun e => l.stagingRoot.child e.1 :=
    value_listFiles _ _
  have hrest : left.filter (fun e =>
      (t.kind? (stagingPlace top ++ [e.1])).isSome) = left :=
    List.filter_eq_self.2 fun e he => by rw [(hleftThere e he).there]; rfl
  unfold promoteAll
  dsimp only
  rw [hfiles, h.staged_eq hw hat, hsplit, List.filter_append, hrest,
    List.map_append, List.foldl_append,
    show (v.withTree t).denied = {} from hd]
  have hresting : ∀ e ∈ done.filter (fun e =>
      (t.kind? (stagingPlace top ++ [e.1])).isSome), l.IsStaged t top e
        ∧ l.IsAtRest top e t ∧ ∀ s, StagingName.ofText e.1 = .ok s →
          Path.isTooLong (FileName.escape s.localeKey) = false
            ∧ (l.cachePath s.localeKey).isOverlong = false := by
    intro e he
    obtain ⟨he, hthere⟩ := List.mem_filter.1 he
    have hv := hstaged e (hsplit ▸ List.mem_append_left _ he)
    exact ⟨h.isStaged_of_ne_none hv (Option.isSome_iff_ne_none.1 hthere),
      h.rest e he, hdone e he⟩
  obtain ⟨log, hrun⟩ := Promotion.foldl_step_of_isAtRest
    ⟨t, [], (l.stagedFiles (v.withTree t)).log, none⟩ rfl h.isAt hresting
  rw [show (v.withTree t).tree = t from rfl, hrun]
  cases left with
  | nil => exact ⟨rfl, rfl⟩
  | cons e left =>
    obtain ⟨s, hs, ho⟩ := hleft e rfl
    rw [List.map_cons, List.foldl_cons, Promotion.step_of_isOverlong rfl
      (hleftThere e List.mem_cons_self) hs ho,
      Promotion.foldl_step_of_failure rfl]
    exact ⟨rfl, rfl⟩

/-- **Promoting all staged files once more** changes nothing, where nothing is
denied and no escaped locale key is too long for a name, also if some files
could not be moved. Nothing is reported to be moved; only if the directory of
some staged file's locale has a path that is too long for the system does the
second run end as the first one did. -/
theorem promoteAll_again (l : Layout) (v : Volume) (hd : v.denied = {})
    (hw : v.tree.WellNamed)
    (hlen : ∀ e ∈ l.staged v, ∀ s, StagingName.ofText e.1 = .ok s →
      Path.isTooLong (FileName.escape s.localeKey) = false) :
    (l.promoteAll (v.withTree (l.promoteAll v).tree)).tree
        = (l.promoteAll v).tree
      ∧ ((∃ e ∈ l.staged v, Promotion.IsTooDeep l e.1) →
        (l.promoteAll (v.withTree (l.promoteAll v).tree)).value
          = .error .nameTooLong)
      ∧ ((∀ e ∈ l.staged v, ¬ Promotion.IsTooDeep l e.1) →
        (l.promoteAll (v.withTree (l.promoteAll v).tree)).value = .ok []) := by
  have hfiles : (l.stagedFiles v).value
      = (l.staged v).map fun e => l.stagingRoot.child e.1 :=
    value_listFiles v _
  have htree : (l.promoteAll v).tree
      = (((l.staged v).map fun e => l.stagingRoot.child e.1).foldl
        (Promotion.step l {}) ⟨v.tree, [], (l.stagedFiles v).log, none⟩).tree := by
    unfold promoteAll
    dsimp only
    rw [hfiles, hd]
    split <;> rfl
  by_cases hnone : l.staged v = []
  · -- nothing waits, so the second run is the first one
    have hsame : v.withTree (l.promoteAll v).tree = v := by
      rw [htree, hnone]
      rfl
    rw [hsame, hnone]
    refine ⟨rfl, ?_, fun _ => ?_⟩
    · rintro ⟨e, he, -⟩
      exact absurd he List.not_mem_nil
    · unfold promoteAll
      dsimp only
      rw [hfiles, hnone]
      rfl
  obtain ⟨e₀, he₀⟩ := List.exists_mem_of_ne_nil _ hnone
  obtain ⟨top, hat⟩ := exists_isAt he₀
  have hstaged := fun e (he : e ∈ l.staged v) =>
    isStaged_of_mem_staged hw hat he
  obtain ⟨taken, left, hsplit, htaken, hleft, hrests⟩ := rests_of_run
    hstaged hlen (List.nil_append (l.staged v)).symm
    ⟨v.tree, [], (l.stagedFiles v).log, none⟩ rfl (.nil hat)
  rw [← htree, List.nil_append] at hrests
  have hmem : ∀ e ∈ taken, e ∈ l.staged v := fun e he =>
    hsplit ▸ List.mem_append_left _ he
  obtain ⟨hsame, hvalue⟩ := promoteAll_of_rests hd hw hat hstaged hsplit
    (fun e he s hs => ⟨hlen e (hmem e he) s hs,
      Bool.eq_false_iff.2 fun ho => htaken e he ⟨s, hs, ho⟩⟩) hleft hrests
  refine ⟨hsame, ?_, ?_⟩
  · rintro ⟨e, he, hdeep⟩
    rw [hvalue, if_neg]
    intro hempty
    rw [hsplit, List.isEmpty_iff.1 hempty, List.append_nil] at he
    exact htaken e he hdeep
  · intro hno
    rw [hvalue, if_pos]
    cases left with
    | nil => rfl
    | cons e left =>
      exact absurd (hleft e rfl)
        (hno e (hsplit ▸ List.mem_append_right _ List.mem_cons_self))

/-- A storage with a download that cannot be moved, since a directory has its
place in the cache. -/
def barredVolume : Volume where
  tree := .dir [(lit "root", .dir [
    (lit "dicts", .dir [(lit "en", .dir [(lit "x", .dir [])])]),
    (lit "staging", .dir [(lit "en___x", .file ⟨.bytes [1], 0⟩)])])]

/-- Its names are names that a directory can show. -/
theorem wellNamed_barredVolume : barredVolume.tree.WellNamed := by
  have hempty : (FileTree.dir []).IsNamed :=
    FileTree.isNamed_dir fun e he => absurd he List.not_mem_nil
  refine FileTree.wellNamed_dir fun e he => ?_
  rw [List.mem_singleton.1 he]
  refine FileTree.isNamed_dir fun e he => ?_
  simp only [List.mem_cons, List.not_mem_nil, or_false] at he
  obtain rfl | rfl := he
  · refine ⟨by decide +kernel, FileTree.isNamed_dir fun e he => ?_⟩
    rw [List.mem_singleton.1 he]
    refine ⟨by decide +kernel, FileTree.isNamed_dir fun e he => ?_⟩
    rw [List.mem_singleton.1 he]
    exact ⟨by decide +kernel, hempty⟩
  · refine ⟨by decide +kernel, FileTree.isNamed_dir fun e he => ?_⟩
    rw [List.mem_singleton.1 he]
    exact ⟨by decide +kernel, FileTree.isNamed_file _⟩

/-- The download that cannot be moved still waits after two runs. -/
theorem promoteAll_again_sample :
    barredVolume.tree.WellNamed
      ∧ (sample.promoteAll barredVolume).tree.kind?
          [lit "root", lit "staging", lit "en___x"]
        = some (.file ⟨.bytes [1], 0⟩)
      ∧ (sample.promoteAll (barredVolume.withTree
          (sample.promoteAll barredVolume).tree)).tree
        = (sample.promoteAll barredVolume).tree
      ∧ (sample.promoteAll (barredVolume.withTree
          (sample.promoteAll barredVolume).tree)).value = .ok [] := by
  have hw := wellNamed_barredVolume
  have hnames : (sample.staged barredVolume).map (·.1) = [lit "en___x"] := by
    decide +kernel
  have hkey : ∀ e ∈ sample.staged barredVolume, ∀ s,
      StagingName.ofText e.1 = .ok s → s.localeKey = lit "en" := by
    intro e he s hs
    have hname : e.1 ∈ [lit "en___x"] := hnames ▸ List.mem_map_of_mem he
    exact localeKey_sample (List.mem_cons_of_mem _
      (List.mem_cons_of_mem _ hname)) hs
  obtain ⟨htree, -, hvalue⟩ := promoteAll_again sample barredVolume rfl hw
    fun e he s hs => by rw [hkey e he s hs]; decide +kernel
  refine ⟨hw, by decide +kernel, htree, hvalue ?_⟩
  rintro e he ⟨s, hs, ho⟩
  rw [hkey e he s hs] at ho
  exact absurd ho (by decide +kernel)

end Lexicon.Layout
