import Lexicon.Proofs.Reconciliation.Origin
import Lexicon.Proofs.Volume.Answers

/-!
# A reconciliation always answers

The sweeps take every error for one that they are ready for: a question without
an answer costs what was asked about, or the whole listing, and is reported.
That is only right for refusals of the system. `Sources.strictReconcile` is the
reconciliation that takes nothing else. Whatever it asks, an error that is no
refusal of the system gets past the sweep over a directory and past the listing,
and is what the whole gives.

Nothing ever gets past it (`Sources.reconcile_answers`), as long as headers of
plain files are read or refused: names that cannot be read are told apart before
they are used, paths that do not reach the system lead nowhere, and what is
opened, dated or deleted was shown before. So both reconciliations are one, and
what it answers is a proper listing.
-/

namespace Lexicon

/-! ## Strict sweeps -/

namespace Sweep

/-- **A question within a sweep.** Refusals of the system are left to the sweep
itself; any other error stops it. -/
def ask {α : Type} : Except FileError α → Sweep
  | .ok _ => {}
  | .error e => if e.isSystem then {} else { failure? := some e }

/-- The questions of a listing: whether there is a directory, what is in it, and
what that is. -/
def askListing (v : Volume) (kind : FileTree → Bool) (p : Path) : Sweep :=
  ask (v.isDir p) ++
    if v.isDir p = .ok true then
      ask (v.list p) ++ concat (((v.list p).toOption.getD []).map fun q =>
        ask (v.isKind kind q))
    else {}

/-- A sweep whose failure is only reported if it is a refusal of the system. -/
def excuseRefusal (s : Sweep) (report : FileError → LogLine) : Sweep :=
  if s.failure?.all FileError.isSystem then s.excuse report else s

end Sweep

namespace Sources

/-- **The strict sweep over a cache directory.** -/
def strictCacheDir (s : Sources) (v : Volume) (p : Path) : Sweep :=
  match FileName.unescape p.name with
  | .error e => Sweep.ofLog [skippedDir p e.message]
  | .ok key =>
    let files := Layout.listFiles v p
    let sweep := Sweep.askListing v FileTree.isFile p
      ++ (Sweep.ofLog files.log ++ Sweep.concat (files.value.map fun q =>
        Sweep.ask (v.isFile q)
          ++ Sweep.ofFinding (s.cachedFinding v (Locale.ofText key) q)))
    sweep.excuseRefusal fun e => skippedDir p e.message

/-- **The strict sweep over the cache.** -/
def strictCache (s : Sources) (v : Volume) : Sweep :=
  let dirs := s.layout.cacheDirs v
  Sweep.askListing v FileTree.isDir s.layout.cacheRoot ++ (Sweep.ofLog dirs.log
    ++ Sweep.concat (dirs.value.map (s.strictCacheDir v)))

/-- The strict sweep over some files at the root. What is of no use is deleted
before the next file is asked about. -/
def strictLeftoversFrom (s : Sources) (v : Volume) :
    FileTree → List Path → Sweep
  | _, [] => {}
  | t, p :: rest =>
    let finding := s.leftoverFinding v p
    Sweep.ask ((v.withTree t).isFile p) ++ (Sweep.ofFinding finding
      ++ match finding with
        | .discard a _ =>
          let gone := discard (v.withTree t) a
          Sweep.ask gone.value ++ s.strictLeftoversFrom v gone.tree rest
        | _ => s.strictLeftoversFrom v t rest)

/-- **The strict sweep over the leftover downloads.** -/
def strictLeftovers (s : Sources) (v : Volume) : Sweep :=
  let files := s.layout.leftoverFiles v
  Sweep.askListing v FileTree.isFile s.layout.root ++ (Sweep.ofLog files.log
    ++ s.strictLeftoversFrom v v.tree files.value)

/-- **The strict sweep over the built-in dictionaries.** A file that is found was
asked about on the way. -/
def strictBundle (s : Sources) (v : Volume) : Sweep :=
  match s.bundle? with
  | none => {}
  | some b =>
    let locales := b.locales v
    (if b.declared?.isSome then {}
      else Sweep.askListing v FileTree.isFile b.directory)
    ++ match locales.value with
      | .error e => { log := locales.log, failure? := some e }
      | .ok keys =>
        Sweep.ofLog locales.log ++ Sweep.concat (keys.map fun key =>
          Sweep.ask (b.find? v (Locale.ofText key))
            ++ Sweep.ofFinding (s.bundledFinding v b key))

/-- **The strict sweep over all sources.** The bundle is looked at after the
leftover downloads of no use were deleted. -/
def strictSweep (s : Sources) (v : Volume) : Sweep :=
  s.strictCache v ++ s.strictLeftovers v
    ++ s.strictBundle (v.withTree (s.sweep v).2) ++ s.sweepEnabled

/-- **The reconciliation that takes refusals of the system and nothing else.** -/
def strictReconcile (s : Sources) (v : Volume) :
    Effect (Except FileError Listing) :=
  let sweep := s.strictSweep v
  let tree := (s.sweep v).2
  let root := s.layout.root.toText
  match sweep.failure? with
  | some e =>
    if e.isSystem then
      ⟨tree, .ok [], sweep.log ++ [⟨.error, lit "Scanning dictionaries under "
        ++ root ++ lit " failed: " ++ e.message⟩]⟩
    else ⟨tree, .error e, sweep.log⟩
  | none =>
    let listing := Listing.ofCandidates sweep.records
    ⟨tree, .ok listing, sweep.log ++ [⟨.info, lit "Found "
      ++ Text.ofNat listing.length ++ lit " dictionaries under " ++ root⟩]⟩

end Sources

/-! ## What stops a sweep -/

namespace Sweep

variable {s t : Sweep}

/-- **Whatever stops a sweep is a refusal of the system.** -/
def IsExcusable (s : Sweep) : Prop :=
  s.failure?.all FileError.isSystem = true

@[simp] theorem isExcusable_ofLog (log : Log) : (ofLog log).IsExcusable := rfl

/-- **One sweep after another** is stopped by what stops either. -/
theorem IsExcusable.append (hs : s.IsExcusable) (ht : t.IsExcusable) :
    (s ++ t).IsExcusable := by
  unfold IsExcusable at *
  rw [failure?_append]
  cases hf : s.failure? with
  | none => exact ht
  | some e =>
    rw [hf] at hs
    exact hs

/-- **Many sweeps** are stopped by what stops one of them. -/
theorem isExcusable_concat {sweeps : List Sweep}
    (h : ∀ s ∈ sweeps, s.IsExcusable) : (concat sweeps).IsExcusable := by
  induction sweeps with
  | nil => rfl
  | cons s rest ih =>
    obtain ⟨hs, hrest⟩ := List.forall_mem_cons.1 h
    exact hs.append (ih hrest)

/-- A sweep over findings is stopped by one of them. -/
theorem isExcusable_ofFindings {findings : List Finding}
    (h : ∀ f ∈ findings, (ofFinding f).IsExcusable) :
    (ofFindings findings).IsExcusable :=
  isExcusable_concat (List.forall_mem_map.2 h)

theorem isExcusable_excuse (s : Sweep) (report : FileError → LogLine) :
    (s.excuse report).IsExcusable := by
  unfold excuse
  split
  · rename_i h
    unfold IsExcusable
    rw [h]
    rfl
  · rfl

/-- **A refusal of the system is excused either way.** -/
theorem IsExcusable.excuseRefusal_eq (h : s.IsExcusable)
    (report : FileError → LogLine) :
    s.excuseRefusal report = s.excuse report :=
  if_pos h

@[simp] theorem empty_append (s : Sweep) : ({} : Sweep) ++ s = s := by
  show append {} s = s
  unfold append
  rfl

/-- **A question that is answered** stops no sweep. -/
theorem ask_eq {α : Type} {answer : Except FileError α} (h : IsAnswered answer) :
    ask answer = {} := by
  cases answer with
  | ok a => rfl
  | error e => exact if_pos (h e rfl)

/-- **All questions of a listing are answered.** -/
theorem askListing_eq (v : Volume) (kind : FileTree → Bool) (p : Path) :
    askListing v kind p = {} := by
  unfold askListing Volume.isDir
  rw [ask_eq (Volume.isAnswered_isKind v _ p), empty_append]
  split
  · rename_i hd
    rw [ask_eq (Volume.isAnswered_list hd), empty_append]
    induction (v.list p).toOption.getD [] with
    | nil => rfl
    | cons q rest ih =>
      show ask (v.isKind kind q) ++ concat _ = _
      rw [ask_eq (Volume.isAnswered_isKind v kind q), empty_append, ih]
  · rfl

/-- **A question before each finding** changes nothing if it is answered. -/
theorem concat_ask {ι α : Type} (xs : List ι) {answer : ι → Except FileError α}
    {finding : ι → Finding} (h : ∀ x, IsAnswered (answer x)) :
    concat (xs.map fun x => ask (answer x) ++ ofFinding (finding x))
      = ofFindings (xs.map finding) := by
  unfold ofFindings
  rw [List.map_map]
  congr 1
  exact List.map_congr_left fun x _ => by
    rw [ask_eq (h x), empty_append, Function.comp_apply]

end Sweep

/-! ## What the sources ask -/

namespace FileAddress

variable {v w : Volume} {p : Path} {a : FileAddress}

theorem isAnswered_lastModified (h : (ofFile v p).value = some a) :
    IsAnswered (a.lastModified v) := by
  obtain ⟨f, hf, rfl⟩ := exists_of_ofFile h
  rw [lastModified_eq hf]
  exact .ok _

theorem isAnswered_header? (h : (ofFile v p).value = some a) :
    IsAnswered (a.header? v).value := by
  obtain ⟨f, hf, rfl⟩ := exists_of_ofFile h
  rw [value_header? hf]
  exact .ok _

/-- **A file that was addressed can be deleted or is kept**, whatever was
deleted before. -/
theorem isAnswered_discard (h : (ofFile v p).value = some a) :
    IsAnswered (Sources.discard w a).value := by
  obtain ⟨f, hf, rfl⟩ := exists_of_ofFile h
  obtain ⟨-, hc, -⟩ := Volume.node_eq_ok_iff.1 (Volume.file?_eq_some_iff.1 hf)
  have hunlink := Volume.isAnswered_unlink (v := w) hc
  unfold Sources.discard delete
  dsimp only
  cases hu : w.unlink p with
  | ok t => exact .ok _
  | error e =>
    have he := hunlink e hu
    cases e with
    | notFound => exact .ok _
    | _ =>
      dsimp only
      rw [if_pos he]
      exact .ok _

end FileAddress

namespace Bundle

/-- **Looking a locale up is answered.** -/
theorem isAnswered_find? (b : Bundle) (v : Volume) (l : Locale) :
    IsAnswered (b.find? v l) := by
  have hfile : ∀ name, IsAnswered (b.file? v name) := fun name =>
    (Volume.isAnswered_isKind v _ _).map _
  unfold find?
  split
  · refine (hfile _).bind fun path? _ => ?_
    cases path? with
    | none => exact hfile _
    | some path => exact .ok _
  · exact hfile _

/-- Asking for the locales is answered. -/
theorem isAnswered_locales (b : Bundle) (v : Volume) :
    IsAnswered (b.locales v).value := by
  unfold locales
  split
  · exact .ok _
  split
  · rename_i e hd
    exact .error (Volume.isAnswered_isKind v _ _ e hd)
  · exact .ok _
  split
  · exact .ok _
  · split <;> exact .ok _

end Bundle

namespace Sources

variable {s : Sources} {v : Volume}

/-- **Headers of plain files are read or refused**: whoever reads them gives a
header or none, or passes on a refusal of the system. -/
def ReadsOrRefuses (s : Sources) : Prop :=
  ∀ (v : Volume) (p : Path) (a : FileAddress),
    (FileAddress.ofFile v p).value = some a → IsAnswered (s.readHeader v a).value

theorem readsOrRefuses_header? (hr : s.readHeader = FileAddress.header?) :
    s.ReadsOrRefuses := by
  intro v p a ha
  rw [hr]
  exact FileAddress.isAnswered_header? ha

/-! ## What stops no sweep -/

/-- What is to be deleted was addressed. -/
theorem ofFile_of_leftoverFinding {p : Path} {a : FileAddress} {log : Log}
    (h : s.leftoverFinding v p = .discard a log) :
    (FileAddress.ofFile v p).value = some a := by
  unfold leftoverFinding at h
  split at h
  · exact absurd h (by simp)
  split at h
  · exact absurd h (by simp)
  dsimp only at h
  split at h
  · exact absurd h (by simp)
  rename_i a' ha
  split at h
  · exact absurd h (by simp)
  · exact absurd h (by simp)
  · rw [ha, (Finding.discard.inj h).1]

/-- Leftover downloads are deleted or kept, and the sweep goes on. -/
theorem strictLeftoversFrom_eq (s : Sources) (v : Volume) (t : FileTree)
    (files : List Path) :
    s.strictLeftoversFrom v t files
      = Sweep.ofFindings (files.map (s.leftoverFinding v)) := by
  induction files generalizing t with
  | nil => rfl
  | cons p rest ih =>
    have hasked : IsAnswered ((v.withTree t).isFile p) :=
      Volume.isAnswered_isKind _ _ p
    unfold strictLeftoversFrom
    dsimp only
    rw [Sweep.ask_eq hasked, Sweep.empty_append]
    show _ = Sweep.ofFinding (s.leftoverFinding v p)
      ++ Sweep.ofFindings (rest.map (s.leftoverFinding v))
    congr 1
    split
    · rename_i a log hd
      have ha := ofFile_of_leftoverFinding hd
      rw [Sweep.ask_eq (FileAddress.isAnswered_discard ha), Sweep.empty_append, ih]
    · exact ih t

/-- **Nothing gets past the sweep over the leftover downloads.** -/
theorem strictLeftovers_eq (s : Sources) (v : Volume) :
    s.strictLeftovers v = s.sweepLeftovers v := by
  unfold strictLeftovers sweepLeftovers
  dsimp only
  rw [Sweep.askListing_eq, Sweep.empty_append, strictLeftoversFrom_eq]

/-- **Nor past that over the bundle.** -/
theorem strictBundle_eq (s : Sources) (v : Volume) :
    s.strictBundle v = s.sweepBundle v := by
  unfold strictBundle sweepBundle
  cases s.bundle? with
  | none => rfl
  | some b =>
    dsimp only
    rw [Sweep.askListing_eq, ite_self, Sweep.empty_append]
    cases (b.locales v).value with
    | error e => rfl
    | ok keys =>
      dsimp only
      rw [Sweep.concat_ask _ fun key => b.isAnswered_find? v _]

theorem isExcusable_sweepCache (s : Sources) (v : Volume) :
    (s.sweepCache v).IsExcusable := by
  refine (Sweep.isExcusable_ofLog _).append (Sweep.isExcusable_concat ?_)
  rw [List.forall_mem_map]
  intro p _
  unfold sweepCacheDir
  split
  · exact Sweep.isExcusable_ofLog _
  · exact Sweep.isExcusable_excuse _ _

/-- A result that is an answer stops no sweep without being excusable. -/
theorem isExcusable_findingOf {log : Log} {what : Text} {filed : Locale}
    {result : Logged (Except FileError RecordResult)}
    (h : IsAnswered result.value) :
    (Sweep.ofFinding (findingOf log what filed result)).IsExcusable := by
  unfold findingOf
  rcases hv : result.value with e | (record | reason | reason)
  · exact h e hv
  · dsimp only
    split <;> rfl
  · rfl
  · rfl

/-! ## What stops the sources -/

section

variable (hr : s.ReadsOrRefuses)
include hr

/-- Making a record is answered. -/
theorem isAnswered_fileRecord (v : Volume) (p : Path) (id : Text)
    (locale : Locale) :
    IsAnswered
      (s.fileRecord v (FileAddress.ofFile v p).value id locale).value := by
  unfold fileRecord
  rcases ha : (FileAddress.ofFile v p).value with - | a
  · exact .ok _
  have hread := hr v p a ha
  dsimp only
  rcases hh : (s.readHeader v a).value with e | - | header <;> rw [hh] at hread
  · exact .error (hread e rfl)
  · exact .ok _
  · dsimp only
    split
    · exact .ok _
    · exact (FileAddress.isAnswered_lastModified ha).map _

/-- Judging a leftover download is answered. -/
theorem isAnswered_judge {p : Path} {a : FileAddress}
    (ha : (FileAddress.ofFile v p).value = some a) (locale : Locale) :
    IsAnswered (s.judge v a locale).value := by
  have hread := hr v p a ha
  unfold judge
  dsimp only
  rcases hh : (s.readHeader v a).value with e | header? <;> rw [hh] at hread
  · exact .error (hread e rfl)
  · dsimp only
    split
    · exact .ok _
    · exact (FileAddress.isAnswered_lastModified ha).map _

/-- **A file of the cache** stops a sweep by a refusal of the system alone. -/
theorem isExcusable_cachedFinding (v : Volume) (filed : Locale) (p : Path) :
    (Sweep.ofFinding (s.cachedFinding v filed p)).IsExcusable := by
  unfold cachedFinding
  split
  · rfl
  split
  · rfl
  split
  · exact isExcusable_findingOf (isAnswered_fileRecord hr v p _ _)
  · rfl

/-- **A leftover download** stops a sweep by a refusal of the system alone. -/
theorem isExcusable_leftoverFinding (v : Volume) (p : Path) :
    (Sweep.ofFinding (s.leftoverFinding v p)).IsExcusable := by
  unfold leftoverFinding
  split
  · rfl
  split
  · rfl
  rename_i key _
  dsimp only
  split
  · rfl
  rename_i a ha
  split
  · rename_i e hj
    exact isAnswered_judge hr ha (Locale.ofText key) e hj
  · rfl
  · rfl

/-- **A locale of the bundle** stops a sweep by a refusal of the system
alone. -/
theorem isExcusable_bundledFinding (v : Volume) (b : Bundle) (key : Text) :
    (Sweep.ofFinding (s.bundledFinding v b key)).IsExcusable := by
  unfold bundledFinding
  dsimp only
  split
  · rfl
  · rfl
  · exact isExcusable_findingOf (isAnswered_fileRecord hr v _ _ _)

/-- **Nothing gets past the sweep over a cache directory**: what its files stop
it with is excused. -/
theorem strictCacheDir_eq (v : Volume) (p : Path) :
    s.strictCacheDir v p = s.sweepCacheDir v p := by
  have hasked : ∀ q, IsAnswered (v.isFile q) := v.isAnswered_isKind _
  unfold strictCacheDir sweepCacheDir
  cases FileName.unescape p.name with
  | error e => rfl
  | ok key =>
    dsimp only
    rw [Sweep.askListing_eq, Sweep.empty_append, Sweep.concat_ask _ hasked]
    refine Sweep.IsExcusable.excuseRefusal_eq
      ((Sweep.isExcusable_ofLog _).append (Sweep.isExcusable_ofFindings ?_)) _
    rw [List.forall_mem_map]
    exact fun q _ => isExcusable_cachedFinding hr v _ q

/-- Nor past that over the cache. -/
theorem strictCache_eq (v : Volume) : s.strictCache v = s.sweepCache v := by
  unfold strictCache sweepCache
  dsimp only
  rw [Sweep.askListing_eq, Sweep.empty_append,
    List.map_congr_left fun p _ => strictCacheDir_eq hr v p]

/-- **Nothing gets past the sweep over all sources.** -/
theorem strictSweep_eq (v : Volume) : s.strictSweep v = (s.sweep v).1 := by
  unfold strictSweep sweep
  rw [strictCache_eq hr, strictLeftovers_eq, strictBundle_eq]

/-- **What stops the sweep over all sources is a refusal of the system**, if
the enabled locales are told or refused. -/
theorem isExcusable_sweep (v : Volume)
    (he : ∀ answer, s.enabled? = some answer → IsAnswered answer) :
    (s.sweep v).1.IsExcusable := by
  have hleftovers : (s.sweepLeftovers v).IsExcusable := by
    refine (Sweep.isExcusable_ofLog _).append (Sweep.isExcusable_ofFindings ?_)
    rw [List.forall_mem_map]
    exact fun p _ => isExcusable_leftoverFinding hr v p
  have hbundle : ∀ v', (s.sweepBundle v').IsExcusable := by
    intro v'
    unfold sweepBundle
    split
    · rfl
    rename_i b _
    dsimp only
    split
    · rename_i e hl
      exact b.isAnswered_locales v' e hl
    · refine (Sweep.isExcusable_ofLog _).append
        (Sweep.isExcusable_ofFindings ?_)
      rw [List.forall_mem_map]
      exact fun key _ => isExcusable_bundledFinding hr v' b key
  have henabled : s.sweepEnabled.IsExcusable := by
    unfold sweepEnabled
    split
    · rfl
    · rename_i e hs
      exact he _ hs e rfl
    · rfl
  exact (((isExcusable_sweepCache s v).append hleftovers).append
    (hbundle _)).append henabled

end

/-! ## The listing -/

/-- **A reconciliation always answers.** Whatever the files are and whatever is
denied on them, whatever the bundle declares, and however headers are read – as
long as headers and enabled locales are told or refused –, no error but refusals
of the system ever comes up, so that who is ready for those alone gets the same
listing. It lists no locale twice, no version is below that of a locale without
a dictionary, and only the records that stand for enabled locales have that. -/
theorem reconcile_answers (s : Sources) (v : Volume) (hr : s.ReadsOrRefuses)
    (he : ∀ answer, s.enabled? = some answer → IsAnswered answer) :
    s.strictReconcile v = (s.reconcile v).map .ok
      ∧ (s.reconcile v).value.locales.Nodup
      ∧ ∀ r ∈ (s.reconcile v).value, Header.noVersion ≤ r.version
        ∧ (r.version = Header.noVersion → r ∈ s.enabled) := by
  refine ⟨?_, nodup_locales_reconcile s v, fun r hmem => ?_⟩
  · have hexcusable := isExcusable_sweep hr v he
    unfold strictReconcile reconcile
    rw [strictSweep_eq hr]
    dsimp only
    cases hf : (s.sweep v).1.failure? with
    | none => rfl
    | some e =>
      rw [Sweep.IsExcusable, hf] at hexcusable
      have hsystem : e.isSystem = true := hexcusable
      dsimp only
      rw [if_pos hsystem]
      rfl
  · obtain ⟨horigin, hversioned | henabled⟩ :=
      versioned_or_enabled_of_mem_reconcile hmem
    · refine ⟨horigin.version_ge, fun hnone => ?_⟩
      rw [hnone] at hversioned
      exact absurd hversioned (by decide)
    · exact ⟨horigin.version_ge, fun _ => henabled⟩

/-- Sources that give trouble: only one header can be read, and one of the
locales that the bundle declares is a zero. -/
def troubled : Sources where
  layout := ⟨⟨.relative, [lit "root"]⟩⟩
  bundle? := some {
    directory := ⟨.relative, [lit "assets"]⟩
    declared? := some [[0], lit "de"] }
  enabled? := some (.ok [lit "fr", lit "fr"])
  readHeader := fun _ a =>
    if a.path.name = lit "main_de" then
      ⟨.ok (some ⟨202, 0, .ofList [(Header.versionKey, lit "18")]⟩), []⟩
    else ⟨.error .inputOutput, []⟩

/-- Their files: a directory and a download whose names cannot be read, a
directory that may not be asked about, and two dictionaries. -/
def troubledVolume : Volume where
  tree := .dir [
    (lit "assets", .dir [(lit "main_de", .file ⟨.bytes [], 0⟩)]),
    (lit "root", .dir [
      (lit "%zz___x.dict", .file ⟨.bytes [], 0⟩),
      (lit "dicts", .dir [(lit "%zz", .dir []), (lit "it", .dir []),
        (lit "en", .dir [(lit "main%00003aen", .file ⟨.bytes [], 0⟩)])])])]
  denied := { inspect := fun p =>
    p = ⟨.relative, [lit "root", lit "dicts", lit "it"]⟩ }

/-- The trouble is passed over, and what is left is listed. -/
theorem reconcile_answers_sample :
    (troubled.strictReconcile troubledVolume).value.map
        (·.map fun r => (r.locale, r.version))
      = .ok [(Locale.ofText (lit "de"), 18), (Locale.ofText (lit "fr"), -1)] := by
  have hreads : troubled.ReadsOrRefuses := by
    intro v p a _
    unfold troubled
    dsimp only
    split
    · exact .ok _
    · exact .error rfl
  obtain ⟨hanswer, -, -⟩ := reconcile_answers troubled troubledVolume hreads
    fun answer h => Option.some.inj h ▸ .ok _
  rw [hanswer]
  decide +kernel

end Sources

end Lexicon
