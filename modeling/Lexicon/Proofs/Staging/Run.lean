import Lexicon.Proofs.Layout.Listings
import Lexicon.Proofs.Staging.History
import Lexicon.Proofs.Volume.Entries

/-!
# A run of promotions

The run takes the turn of each staged file in the order of the listing, and the
tree accounts for the turns so far (`Turn.accounts`), so at the end it accounts
for them all (`Promotion.run_cases`). The only thing that ends a run before its
time, where nothing is denied and no escaped locale key is too long for a name,
is a directory of a locale whose path is too long for the system.
-/

namespace Lexicon

namespace FileTree

/-- **Every directory of a tree shows names that a directory can show.** -/
def IsNamed (t : FileTree) : Prop :=
  ∀ place entries, t.lookup place = some (.dir entries) →
    ∀ name ∈ (FileTree.dir entries).names, Path.IsEntryName name

/-- **What is below the top of a tree is named as directories show names.** At
the top the root directory has a name that no entry can bear. -/
def WellNamed (t : FileTree) : Prop :=
  ∀ name s, t.lookup [name] = some s → s.IsNamed

theorem isNamed_file (f : File) : (FileTree.file f).IsNamed := by
  intro place entries h
  cases place with
  | nil => exact absurd h (by simp)
  | cons name rest => exact absurd h (by simp)

/-- A directory is named as its entries are. -/
theorem isNamed_dir {entries : List (Text × FileTree)}
    (h : ∀ e ∈ entries, Path.IsEntryName e.1 ∧ e.2.IsNamed) :
    (FileTree.dir entries).IsNamed := by
  intro place es hl name hname
  cases place with
  | nil =>
    obtain rfl : entries = es := by simpa using hl
    obtain ⟨t, ht⟩ := Option.isSome_iff_exists.1 (mem_names_dir.1 hname)
    exact (h _ (mem_of_child? ht)).1
  | cons outer rest =>
    rw [lookup_dir_cons] at hl
    obtain ⟨s, hs, hl⟩ := Option.bind_eq_some_iff.1 hl
    exact (h _ (mem_of_child? hs)).2 rest es hl name hname

theorem wellNamed_dir {entries : List (Text × FileTree)}
    (h : ∀ e ∈ entries, e.2.IsNamed) : (FileTree.dir entries).WellNamed := by
  intro name s hs
  rw [lookup_dir_cons] at hs
  obtain ⟨s', hs', hl⟩ := Option.bind_eq_some_iff.1 hs
  rw [lookup_nil, Option.some.injEq] at hl
  exact hl ▸ h _ (mem_of_child? hs')

theorem WellNamed.isEntryName {t : FileTree} (h : t.WellNamed) {place : Place}
    {entries : List (Text × FileTree)} (hp : place ≠ [])
    (hl : t.lookup place = some (.dir entries)) {name : Text}
    (hn : name ∈ (FileTree.dir entries).names) : Path.IsEntryName name := by
  obtain ⟨outer, rest, rfl⟩ := List.exists_cons_of_ne_nil hp
  rw [← List.singleton_append, lookup_append] at hl
  obtain ⟨s, hs, hl⟩ := Option.bind_eq_some_iff.1 hl
  exact h outer s hs rest entries hl name hn

end FileTree

namespace Layout

variable {l : Layout} {top : Place} {v : Volume}

/-! ## The staged files -/

/-- **The staged files**, by name. -/
def staged (l : Layout) (v : Volume) : List (Text × File) :=
  v.filesIn l.stagingRoot

/-- A staged file is a plain file of a directory that is shown. -/
theorem exists_dir_of_mem_staged {e : Text × File} (h : e ∈ l.staged v) :
    ∃ place entries, v.tree.locate l.stagingRoot = .ok place
      ∧ v.tree.lookup place = some (.dir entries)
      ∧ e.1 ∈ (FileTree.dir entries).names := by
  obtain ⟨-, -, -, place, hl, hthere⟩ :=
    Volume.mem_namesIn_iff.1 (Volume.mem_filesIn_iff.1 h).1
  obtain ⟨k, hk⟩ := Option.ne_none_iff_exists'.1 hthere
  obtain ⟨entries, hes⟩ := FileTree.kind?_eq_dir_iff.1
    (FileTree.kind?_above (List.cons_ne_nil _ _) hk)
  exact ⟨place, entries, hl, hes,
    (FileTree.mem_names_iff hes).2 (Option.isSome_iff_ne_none.2 hthere)⟩

/-- **Where there are staged files there is a storage.** -/
theorem exists_isAt {e : Text × File} (h : e ∈ l.staged v) :
    ∃ top, l.IsAt v.tree top := by
  obtain ⟨place, entries, hl, hk, -⟩ := exists_dir_of_mem_staged h
  have hdir := FileTree.kind?_eq_dir_iff.2 ⟨entries, hk⟩
  unfold stagingRoot at hl
  rw [FileTree.locate_child_eq_ok_iff stagingName_ne_dotDot,
    respell_stagingName] at hl
  obtain ⟨top, htop, -, -, rfl⟩ := hl
  exact ⟨top, htop, hdir⟩

/-- The staged files of a well-named tree can be reached. -/
theorem isStaged_of_mem_staged {e : Text × File} (hw : v.tree.WellNamed)
    (hat : l.IsAt v.tree top) (h : e ∈ l.staged v) :
    l.IsStaged v.tree top e := by
  obtain ⟨place, entries, hl, hk, hname⟩ := exists_dir_of_mem_staged h
  obtain rfl := Except.ok.inj (hat.locate_stagingRoot.symm.trans hl)
  have hentry : Path.IsEntryName e.1 :=
    hw.isEntryName
      (List.append_ne_nil_of_right_ne_nil _ (List.cons_ne_nil _ _)) hk hname
  obtain ⟨-, hc, place, hp, hf⟩ := Volume.node_eq_ok_iff.1
    (Volume.file?_eq_some_iff.1 (Volume.file?_of_mem_filesIn h))
  rw [FileTree.locate_child_eq_ok_iff hentry.ne_dotDot, hentry.respell_eq] at hp
  obtain ⟨above, ha, -, hshort, rfl⟩ := hp
  obtain rfl := Except.ok.inj (hat.locate_stagingRoot.symm.trans ha)
  exact ⟨hentry, hshort, hc, FileTree.kind?_eq_file_iff.2 hf⟩

/-- No two staged files have one name. -/
theorem nodup_staged (l : Layout) (v : Volume) :
    ((l.staged v).map (·.1)).Nodup := by
  have hnames : (v.namesIn l.stagingRoot).Nodup := by
    refine (Volume.pairwise_namesIn v l.stagingRoot).imp fun hlt heq => ?_
    exact List.lt_irrefl _ (heq ▸ hlt)
  have hfilter : (l.staged v).map (·.1)
      = (v.namesIn l.stagingRoot).filter fun name =>
        (v.file? (l.stagingRoot.child name)).isSome := by
    unfold staged Volume.filesIn
    rw [List.map_filterMap, ← List.filterMap_eq_filter]
    refine List.filterMap_congr fun name _ => ?_
    rw [Option.guard]
    cases v.file? (l.stagingRoot.child name) <;> rfl
  rw [hfilter]
  exact hnames.filter _

/-! ## Turns -/

/-- **A turn is accounted for** with what it reported. -/
theorem Turn.accounts {staged : List (Text × File)} {before t t' : FileTree}
    {history : List Taken} {e : Text × File} {moved : List Path}
    (hturn : Turn l top e t t' moved)
    (h : l.Accounts top staged before history t) (he : l.IsStaged t top e)
    (hmem : e ∈ staged) :
    ∃ target?, moved = target?.toList
      ∧ l.Accounts top staged before (history ++ [⟨e.1, e.2, target?⟩]) t' := by
  have hnew : ∀ {s : StagingName}, StagingName.ofText e.1 = .ok s →
      ∀ place, IsCacheDir top s.localeKey place → IsNewDir top staged place :=
    fun hs place hp => ⟨e, hmem, _, hs, hp⟩
  have hgood : ∀ {s : StagingName}, StagingName.ofText e.1 = .ok s →
      ¬ l.IsMalformed e.1 := by
    rintro s hs ⟨-, hbad⟩
    unfold destination? at hbad
    rw [hs] at hbad
    exact absurd hbad (by simp [Except.toOption])
  cases hturn with
  | unmarked hname =>
    refine ⟨none, rfl, h.pass he.name ?_⟩
    rintro ⟨hsep, -⟩
    rw [hname] at hsep
    exact absurd hsep Bool.false_ne_true
  | malformed hname hbad hview =>
    exact ⟨none, rfl, h.discard he.name ⟨hname, hbad⟩ he.there hview⟩
  | left hname hgains =>
    exact ⟨none, rfl,
      (h.gains (hgains.mono (hnew hname))).pass he.name (hgood hname)⟩
  | moved hname hgains hplace hfree hview =>
    exact ⟨some _, rfl, (h.gains (hgains.mono (hnew hname))).move he.name hname
      (hgains.kind?_eq he.there) hplace hfree hview⟩

end Layout

namespace Promotion

open Layout

variable {l : Layout} {top : Place}

/-- What brought a run to an end stays. -/
theorem foldl_step_of_failure {denied : Denials} {run : Promotion}
    {error : FileError} (hf : run.failure? = some error) (files : List Path) :
    files.foldl (step l denied) run = run := by
  induction files with
  | nil => rfl
  | cons p files ih =>
    have hstep : step l denied run p = run := by
      unfold step
      rw [hf]
      rfl
    rw [List.foldl_cons, hstep, ih]

/-- Whether the directory of the locale that a name tells has a path that is
too long for the system. -/
def IsTooDeep (l : Layout) (name : Text) : Prop :=
  ∃ s, StagingName.ofText name = .ok s
    ∧ (l.cachePath s.localeKey).isOverlong = true

/-- **A run of promotions** comes to its end and is accounted for, or meets a
directory whose path is too long, which ends it. -/
theorem run_cases {staged todo : List (Text × File)} {before : FileTree}
    (hat : l.IsAt before top) (hmem : ∀ e ∈ todo, e ∈ staged)
    (hstaged : ∀ e ∈ todo, l.IsStaged before top e)
    (hnodup : (todo.map (·.1)).Nodup)
    (hlen : ∀ e ∈ todo, ∀ s, StagingName.ofText e.1 = .ok s →
      Path.isTooLong (FileName.escape s.localeKey) = false)
    {history : List Taken} (run : Promotion) (hf : run.failure? = none)
    (hfresh : ∀ e ∈ todo, ∀ h ∈ history, h.name ≠ e.1)
    (hmoved : run.moved = history.filterMap (·.target?))
    (h : l.Accounts top staged before history run.tree) :
    ((∃ e ∈ todo, IsTooDeep l e.1)
      ∧ ((todo.map fun e => l.stagingRoot.child e.1).foldl (step l {})
        run).failure? = some .nameTooLong)
    ∨ ((∀ e ∈ todo, ¬ IsTooDeep l e.1) ∧ ∃ turns tree log,
        turns.map (fun h => (h.name, h.file)) = todo
        ∧ (todo.map fun e => l.stagingRoot.child e.1).foldl (step l {}) run
          = ⟨tree, (history ++ turns).filterMap (·.target?), log, none⟩
        ∧ l.Accounts top staged before (history ++ turns) tree) := by
  induction todo generalizing history run with
  | nil =>
    refine Or.inr ⟨fun e he => absurd he List.not_mem_nil, [], run.tree,
      run.log, rfl, ?_, ?_⟩
    · rw [List.append_nil, ← hmoved, ← hf]
      rfl
    · rw [List.append_nil]
      exact h
  | cons e todo ih =>
    rw [List.forall_mem_cons] at hmem hstaged hlen hfresh
    rw [List.map_cons, List.nodup_cons] at hnodup
    rw [List.map_cons, List.foldl_cons]
    have hatrun := hat.mono h.keepsDirs
    -- no turn before its own takes a staged file away
    have he : l.IsStaged run.tree top e :=
      ⟨hstaged.1.name, hstaged.1.short, hstaged.1.check,
        h.kind?_staged hfresh.1 hstaged.1.there⟩
    by_cases hdeep : IsTooDeep l e.1
    · obtain ⟨s, hs, ho⟩ := hdeep
      refine Or.inl ⟨⟨e, List.mem_cons_self, s, hs, ho⟩, ?_⟩
      rw [step_of_isOverlong hf he hs ho, foldl_step_of_failure rfl]
    · have hshort : ∀ s, StagingName.ofText e.1 = .ok s →
          Path.isTooLong (FileName.escape s.localeKey) = false
            ∧ (l.cachePath s.localeKey).isOverlong = false :=
        fun s hs => ⟨hlen.1 s hs,
          Bool.eq_false_iff.2 fun ho => hdeep ⟨s, hs, ho⟩⟩
      obtain ⟨t, moved, log, hstep, hturn⟩ := turn_of_step hf hatrun he hshort
      obtain ⟨target?, rfl, hacc⟩ := hturn.accounts h he hmem.1
      rw [hstep]
      have hmoved' : run.moved ++ target?.toList
          = (history ++ [(⟨e.1, e.2, target?⟩ : Taken)]).filterMap
            (·.target?) := by
        rw [hmoved, List.filterMap_append]
        cases target? <;> rfl
      have hfresh' : ∀ e' ∈ todo,
          ∀ x ∈ history ++ [(⟨e.1, e.2, target?⟩ : Taken)], x.name ≠ e'.1 := by
        intro e' he'
        rw [List.forall_mem_append]
        refine ⟨hfresh.2 e' he', fun x hx heq => hnodup.1 ?_⟩
        rw [List.mem_singleton.1 hx] at heq
        exact List.mem_map.2 ⟨e', he', heq.symm⟩
      obtain ⟨⟨e', he', hdeep'⟩, hfail⟩ | ⟨hno, turns, tree, log', hturns, hrun,
          hacc⟩ := ih hmem.2 hstaged.2 hnodup.2 hlen.2 ⟨t, _, log, none⟩ rfl
            hfresh' hmoved' hacc
      · exact Or.inl ⟨⟨e', List.mem_cons_of_mem _ he', hdeep'⟩, hfail⟩
      · rw [List.append_assoc, List.singleton_append] at hrun hacc
        refine Or.inr ⟨List.forall_mem_cons.2 ⟨hdeep, hno⟩,
          ⟨e.1, e.2, target?⟩ :: turns, tree, log', ?_, hrun, hacc⟩
        rw [List.map_cons, hturns]

end Promotion

end Lexicon
