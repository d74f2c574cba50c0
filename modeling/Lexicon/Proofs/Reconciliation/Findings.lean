import Lexicon.Proofs.Reconciliation.Candidates
import Lexicon.Proofs.Text.Cuts
import Lexicon.Proofs.Volume.Addresses

/-!
# The sweeps find the candidates

Each sweep goes through the same steps for every file it comes to – an
address, a header, a record, a finding – and each step has one lemma here, for
a plain file that the volume shows. Reading headers from the files themselves
makes all of them succeed, so no finding is a failure and every sweep comes to
its end: `yields_sweepCache`, `yields_sweepLeftovers`, `yields_sweepBundle` and
`yields_sweepEnabled` say that it then holds the candidates of its kind.

The candidates are told without the functions that the sweeps go through, and
where the two differ in their words a lemma says that they agree: on the locale
of a dictionary (`contentLocale_eq_iff`), on the key of a main word list
(`mainKey?_eq`), on the name of a leftover download (`isLeftoverName_eq`) and on
what a bundle has (`bundledCandidate?_eq`).
-/

namespace Lexicon

theorem Header.version_eq_noVersion_iff (h : Header) :
    h.version = noVersion ↔ ¬ 0 ≤ h.version := by
  unfold version versionOf
  split
  · split
    · rename_i n hn
      exact iff_of_false (by unfold noVersion; omega) (not_not.2 hn)
    · exact iff_of_true rfl (by decide)
  · exact iff_of_true rfl (by decide)

theorem Bundle.isSome_file?_of_find? {b : Bundle} {v : Volume} {l : Locale}
    {p : Path} (h : b.find? v l = .ok (some p)) : (v.file? p).isSome := by
  obtain h | h := Bundle.file?_of_find? h
  all_goals exact (Bundle.file?_eq_some_iff.1 h).2

namespace Sources

variable {s : Sources} {v : Volume}

/-! ## Records -/

/-- **The locale of a dictionary is the one it belongs to.** -/
theorem contentLocale_eq_iff {h : Header} {named l : Locale} :
    contentLocale h named = l ↔ h.IsFor named l := by
  have hkey : Header.localeKey = lit "locale" := rfl
  unfold contentLocale Header.IsFor
  rw [hkey, h.attributes.exists_entry_iff
      (P := fun value => value ≠ [] ∧ l = Locale.ofText value),
    h.attributes.forall_entry_iff (P := (· = []))]
  rcases h.attributes.get? (lit "locale") with - | (- | ⟨c, rest⟩) <;>
    simp [eq_comm]

/-- **A filed dictionary has a record** if the locale of its content is the one
that it is filed for. -/
theorem filedRecord?_eq (s : Sources) (f : File) (id : Text)
    (named filed : Locale) :
    s.filedRecord? f id named filed
      = (f.versioned?.map fun h =>
        s.recordOf f h id (contentLocale h named) none).filter
          (·.locale = filed) := by
  unfold filedRecord?
  cases f.versioned? with
  | none => rfl
  | some h =>
    rw [Option.bind_eq_bind, Option.bind_some, Option.map_some]
    have hlocale : (s.recordOf f h id (contentLocale h named) none).locale
        = contentLocale h named := rfl
    by_cases hl : contentLocale h named = filed
    · rw [if_pos (contentLocale_eq_iff.1 hl),
        Option.filter_some_pos (by rw [hlocale, decide_eq_true hl]), hl]
    · rw [if_neg (mt contentLocale_eq_iff.2 hl),
        Option.filter_some_neg (by rw [hlocale]; simpa using hl)]

/-- **A dictionary that names no locale** belongs to the one that its own name
tells. -/
theorem filedRecord?_of_unnamed (s : Sources) {f : File} {h : Header}
    (hf : f.versioned? = some h)
    (hn : h.attributes.get? Header.localeKey = none) (id : Text)
    (named filed : Locale) :
    s.filedRecord? f id named filed
      = (some (s.recordOf f h id named none)).filter (·.locale = filed) := by
  have hcontent : contentLocale h named = named := by
    unfold contentLocale
    rw [hn]
  rw [filedRecord?_eq, hf, Option.map_some, hcontent]

/-- **The record made for a plain file** is that of its header, if it tells a
version. -/
theorem value_fileRecord (hr : s.readHeader = FileAddress.header?)
    {p : Path} {f : File} (hf : v.file? p = some f) (id : Text)
    (locale : Locale) :
    ∃ result,
      (s.fileRecord v (FileAddress.ofFile v p).value id locale).value
          = .ok result
        ∧ result.record? = f.versioned?.map fun h =>
          s.recordOf f h id (contentLocale h locale) none := by
  unfold fileRecord File.versioned?
  rw [FileAddress.value_ofFile hf, hr]
  dsimp only
  rw [FileAddress.value_header? hf]
  rcases (Header.ofBytes f.content.toBytes _).toOption with - | h
  · exact ⟨_, rfl, rfl⟩
  · dsimp only
    by_cases hv : h.version = Header.noVersion
    · rw [if_pos hv, Option.filter_some_neg
        (by simpa using (Header.version_eq_noVersion_iff h).1 hv)]
      exact ⟨_, rfl, rfl⟩
    · rw [if_neg hv, Option.filter_some_pos
        (by simpa [Header.version_eq_noVersion_iff] using hv),
        FileAddress.lastModified_eq hf]
      exact ⟨_, rfl, rfl⟩

/-- **A leftover download is kept** with its record if it tells a version, and
is to be discarded otherwise. -/
theorem value_judge (hr : s.readHeader = FileAddress.header?)
    {p : Path} {f : File} (hf : v.file? p = some f) (locale : Locale) :
    (s.judge v ⟨p, 0, f.content.toBytes.length⟩ locale).value
      = .ok (match f.versioned? with
        | some h => .keep
          (s.recordOf f h (WordListId.ofMain locale) locale (some p.name))
        | none => .discard) := by
  unfold judge File.versioned?
  rw [hr]
  dsimp only
  rw [FileAddress.value_header? hf]
  rcases (Header.ofBytes f.content.toBytes _).toOption with - | h
  · rfl
  · dsimp only
    rw [Option.map_some, Option.getD_some]
    by_cases hv : h.version = Header.noVersion
    · rw [if_pos hv, Option.filter_some_neg
        (by simpa using (Header.version_eq_noVersion_iff h).1 hv)]
    · rw [if_neg hv, Option.filter_some_pos
        (by simpa [Header.version_eq_noVersion_iff] using hv),
        FileAddress.lastModified_eq hf]
      rfl

/-! ## Findings -/

/-- A result as a finding: its record, if it belongs where it is filed. -/
theorem yields_findingOf {log : Log} {what : Text} {filed : Locale}
    {result : Logged (Except FileError RecordResult)} {r : RecordResult}
    (h : result.value = .ok r) :
    (Sweep.ofFinding (findingOf log what filed result)).Yields
      (r.record?.filter (·.locale = filed)).toList [] := by
  unfold findingOf
  rw [h]
  cases r with
  | found record =>
    dsimp only [RecordResult.record?]
    by_cases hl : record.locale = filed
    · rw [if_pos hl, Option.filter_some_pos (by simpa using hl)]
      exact ⟨rfl, rfl, rfl⟩
    · rw [if_neg hl, Option.filter_some_neg (by simpa using hl)]
      exact ⟨rfl, rfl, rfl⟩
  | absent reason => exact ⟨rfl, rfl, rfl⟩
  | malformed reason => exact ⟨rfl, rfl, rfl⟩

/-- **A plain file as a finding** of the cache or the bundle. -/
theorem yields_fileRecord (hr : s.readHeader = FileAddress.header?)
    {p : Path} {f : File} (hf : v.file? p = some f) (log : Log)
    (what id : Text) (named filed : Locale) :
    (Sweep.ofFinding (findingOf log what filed
      (s.fileRecord v (FileAddress.ofFile v p).value id named))).Yields
      (s.filedRecord? f id named filed).toList [] := by
  obtain ⟨result, hv, hrec⟩ := value_fileRecord hr hf id named
  rw [filedRecord?_eq, ← hrec]
  exact yields_findingOf hv

/-- A main word list is one whose key can be read off its identifier. -/
theorem mainKey?_eq {id : Text} :
    WordListId.mainKey? id
      = ((WordListId.ofText? id).filter (·.category? = some .main)).map
        (·.localeKey) := by
  unfold WordListId.mainKey? WordListId.ofText? WordListId.separator
  rcases id.split (· == ':')
    with - | ⟨category, - | ⟨key, - | ⟨_, _⟩⟩⟩
  · rfl
  · rfl
  · dsimp only
    unfold WordListId.category? Category.ofText?
    have hmain : Category.toText .main = lit "main" := rfl
    by_cases hc : category = lit "main" <;> simp [Option.filter, hc, hmain]
  · rfl

/-- **A file of the cache as a finding.** -/
theorem yields_cachedFinding (hr : s.readHeader = FileAddress.header?)
    {p : Path} {dir name dirKey : Text} {f : File}
    (hd : FileName.unescape dir = .ok dirKey)
    (hf : v.file? (p.child name) = some f) :
    (Sweep.ofFinding
      (s.cachedFinding v (Locale.ofText dirKey) (p.child name))).Yields
      (s.cachedCandidate? dir name f).toList [] := by
  unfold cachedFinding cachedCandidate?
  rw [Path.name_child, hd]
  cases FileName.unescape name with
  | error e => exact ⟨rfl, rfl, rfl⟩
  | ok id =>
    simp only [Except.toOption, Option.bind_eq_bind, Option.bind_some,
      mainKey?_eq]
    cases WordListId.ofText? id with
    | none => exact ⟨rfl, rfl, rfl⟩
    | some wordList =>
      dsimp only
      by_cases hc : wordList.category? = some .main
      · rw [if_pos hc, Option.filter_some_pos (by simpa using hc)]
        exact yields_fileRecord hr hf _ _ _ _ _
      · rw [if_neg hc, Option.filter_some_neg (by simpa using hc)]
        exact ⟨rfl, rfl, rfl⟩

/-- **A leftover download is told by its name.** -/
theorem isLeftoverName_eq (name : Text) :
    Layout.isLeftoverName name
      = decide (lit ".dict" <:+ name ∧ lit "___" <:+: name) := by
  rw [Bool.eq_iff_iff, decide_eq_true_eq, ← Text.includes_iff]
  unfold Layout.isLeftoverName
  rw [Bool.and_eq_true, Text.endsWith, List.isSuffixOf_iff_suffix]
  rfl

/-- **A leftover download as a finding**: a record, or a file to delete. -/
theorem yields_leftoverFinding (hr : s.readHeader = FileAddress.header?)
    {p : Path} {name : Text} {f : File}
    (hf : v.file? (p.child name) = some f) :
    (Sweep.ofFinding (s.leftoverFinding v (p.child name))).Yields
      (s.leftoverCandidate? name f).toList
      (if isUseless name f then
        [⟨p.child name, 0, f.content.toBytes.length⟩] else []) := by
  have hsep : Layout.separator = lit "___" := rfl
  unfold leftoverFinding leftoverCandidate?
  rw [Path.name_child, hsep]
  rcases hc : Text.cut? (lit "___") name with - | ⟨front, rest⟩
  · have hkey : leftoverKey? name = none := by rw [leftoverKey?, hc]; rfl
    have hu : isUseless name f = false := by rw [isUseless, hkey]; rfl
    rw [hkey, if_neg (by rw [hu]; exact Bool.false_ne_true)]
    exact ⟨rfl, rfl, rfl⟩
  have hkey : leftoverKey? name = (FileName.unescape front).toOption := by
    rw [leftoverKey?, hc]
    rfl
  have hu : isUseless name f
      = ((FileName.unescape front).toOption.isSome && f.versioned?.isNone) := by
    rw [isUseless, hkey]
  rw [hkey]
  dsimp only
  cases hk : FileName.unescape front with
  | error e =>
    rw [hk] at hu
    rw [if_neg (by rw [hu]; exact Bool.false_ne_true)]
    exact ⟨rfl, rfl, rfl⟩
  | ok key =>
    -- the header decides between a record and a file to delete
    rw [hk] at hu
    have hjudge := value_judge hr hf (Locale.ofText key)
    rw [Path.name_child] at hjudge
    rw [FileAddress.value_ofFile hf]
    dsimp only
    rw [hjudge]
    cases hv : f.versioned? with
    | none =>
      rw [hv] at hu
      have huse : isUseless name f = true := hu
      rw [if_pos huse]
      exact ⟨rfl, rfl, rfl⟩
    | some h =>
      rw [hv] at hu
      rw [if_neg (by rw [hu]; exact Bool.false_ne_true)]
      exact ⟨rfl, rfl, rfl⟩

/-- **What a bundle finds for a key**, as a candidate. -/
theorem bundledCandidate?_eq (s : Sources) (v : Volume) (b : Bundle)
    (key : Text) :
    s.bundledCandidate? v b key
      = (b.find? v (Locale.ofText key)).toOption.join.bind fun p =>
        (v.file? p).bind fun f =>
          s.filedRecord? f (WordListId.ofMain (Locale.ofText key))
            (b.localeOf p.name) (Locale.ofText key) := by
  unfold bundledCandidate?
  dsimp only
  rw [Bundle.resource?_eq]
  rcases (b.find? v (Locale.ofText key)).toOption.join with - | p
  · rfl
  · rw [Option.bind_some, Option.bind_some, Bundle.localeOf_eq_localeIn]
    cases v.file? p <;> rfl

/-- **A locale of the bundle as a finding.** -/
theorem yields_bundledFinding (hr : s.readHeader = FileAddress.header?)
    (b : Bundle) (key : Text) :
    (Sweep.ofFinding (s.bundledFinding v b key)).Yields
      (s.bundledCandidate? v b key).toList [] := by
  rw [bundledCandidate?_eq]
  unfold bundledFinding
  dsimp only
  rcases hp : b.find? v (Locale.ofText key) with e | - | p
  · exact ⟨rfl, rfl, rfl⟩
  · exact ⟨rfl, rfl, rfl⟩
  · obtain ⟨f, hf⟩ := Option.isSome_iff_exists.1 (Bundle.isSome_file?_of_find? hp)
    simp only [Except.toOption, Option.join_some, Option.bind_some, hf]
    exact yields_fileRecord hr hf _ _ _ _ _

/-! ## Sweeps -/

/-- The sweep over a cache directory finds the candidates in it. -/
theorem yields_sweepCacheDir (hr : s.readHeader = FileAddress.header?)
    (p : Path) (dir : Text) :
    (s.sweepCacheDir v (p.child dir)).Yields
      ((v.filesIn (p.child dir)).filterMap fun e =>
        s.cachedCandidate? dir e.1 e.2) [] := by
  unfold sweepCacheDir
  rw [Path.name_child]
  cases hd : FileName.unescape dir with
  | error e =>
    have hnone : ∀ e ∈ v.filesIn (p.child dir),
        s.cachedCandidate? dir e.1 e.2 = none := fun _ _ => by
      unfold cachedCandidate?
      rw [hd]
      rfl
    rw [List.filterMap_eq_nil_iff.2 hnone]
    exact Sweep.yields_ofLog _
  | ok dirKey =>
    dsimp only
    refine Sweep.Yields.excuse (Sweep.Yields.ofLog_append _ ?_) _
    rw [Layout.value_listFiles, List.map_map]
    refine Sweep.Yields.ofFindings_keeping _ fun e he => ?_
    exact yields_cachedFinding hr hd (Volume.file?_of_mem_filesIn he)

theorem cached_eq (s : Sources) (v : Volume) :
    s.cached v = (v.dirsIn s.layout.cacheRoot).flatMap fun dir =>
      (v.filesIn (s.layout.cacheRoot.child dir)).filterMap fun e =>
        s.cachedCandidate? dir e.1 e.2 :=
  rfl

/-- **The sweep over the cache finds the cached candidates.** -/
theorem yields_sweepCache (hr : s.readHeader = FileAddress.header?) :
    (s.sweepCache v).Yields (s.cached v) [] := by
  refine Sweep.Yields.ofLog_append _ ?_
  unfold Layout.cacheDirs
  rw [Layout.value_listDirs, List.map_map]
  exact Sweep.Yields.concat_keeping _ fun dir _ =>
    yields_sweepCacheDir hr _ dir

/-- **The sweep over the leftover downloads** finds the candidates among them,
and the useless ones to delete. -/
theorem yields_sweepLeftovers (hr : s.readHeader = FileAddress.header?) :
    (s.sweepLeftovers v).Yields (s.leftovers v)
      ((s.uselessLeftovers v).map fun e =>
        ⟨s.layout.root.child e.1, 0, e.2.content.toBytes.length⟩) := by
  refine Sweep.Yields.ofLog_append _ ?_
  have hfiles : (s.layout.leftoverFiles v).value
      = (s.leftoverFiles v).map fun e => s.layout.root.child e.1 := by
    unfold Layout.leftoverFiles leftoverFiles
    dsimp only
    rw [Layout.value_listFiles, List.filter_map]
    refine congrArg (List.map _) (List.filter_congr fun e _ => ?_)
    rw [Function.comp_apply, Path.name_child]
    exact isLeftoverName_eq _
  rw [hfiles, List.map_map]
  have hfinding : ∀ e ∈ s.leftoverFiles v,
      (Sweep.ofFinding
        ((s.leftoverFinding v ∘ fun e => s.layout.root.child e.1) e)).Yields
        (s.leftoverCandidate? e.1 e.2).toList
        (if isUseless e.1 e.2 then
          [⟨s.layout.root.child e.1, 0, e.2.content.toBytes.length⟩]
          else []) :=
    fun e he => yields_leftoverFinding hr
      (Volume.file?_of_mem_filesIn (List.mem_of_mem_filter he))
  have hy := Sweep.Yields.ofFindings (s.leftoverFiles v) hfinding
  unfold leftovers uselessLeftovers
  rw [List.filterMap_eq_flatMap_toList]
  rw [← List.filterMap_eq_filter, List.map_filterMap,
    List.filterMap_eq_flatMap_toList]
  convert hy using 2
  funext e
  rw [Option.guard]
  dsimp only
  split <;> rfl

theorem bundled_eq_locales (s : Sources) (v : Volume) :
    s.bundled v = s.bundle?.toList.flatMap fun b =>
      ((b.locales v).value.toOption.getD []).filterMap
        (s.bundledCandidate? v b) :=
  congrArg (s.bundle?.toList.flatMap ·)
    (funext fun b => by rw [Bundle.getD_locales_eq_keys])

/-- **The sweep over the bundle finds the bundled candidates**, if the locales
of the bundle can be told. -/
theorem yields_sweepBundle (hr : s.readHeader = FileAddress.header?)
    (hb : ∀ b, s.bundle? = some b → ∃ keys, (b.locales v).value = .ok keys) :
    (s.sweepBundle v).Yields (s.bundled v) [] := by
  unfold sweepBundle
  rw [bundled_eq_locales]
  cases hs : s.bundle? with
  | none => exact Sweep.yields_empty
  | some b =>
    obtain ⟨keys, hk⟩ := hb b hs
    simp only [hk, Option.toList_some, List.flatMap_cons, List.flatMap_nil,
      List.append_nil, Except.toOption, Option.getD_some]
    refine Sweep.Yields.ofLog_append _ ?_
    exact Sweep.Yields.ofFindings_keeping _ fun key _ =>
      yields_bundledFinding hr b key

/-- **The sweep over the enabled locales finds a candidate for each**, if they
can be told. -/
theorem yields_sweepEnabled (he : ∀ e, s.enabled? ≠ some (.error e)) :
    s.sweepEnabled.Yields s.enabled [] := by
  unfold sweepEnabled enabled
  rcases hs : s.enabled? with - | (e | keys)
  · exact Sweep.yields_empty
  · exact absurd hs (he e)
  · exact ⟨rfl, rfl, rfl⟩

end Sources

end Lexicon
