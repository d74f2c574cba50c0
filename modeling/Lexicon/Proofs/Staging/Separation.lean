import Lexicon.Proofs.FileName.Separators
import Lexicon.Proofs.Layout.CacheFiles
import Lexicon.Proofs.Staging.Fates

/-!
# Which staging names can be taken apart again

A download waits under the escaped form of its locale key, the separator and
its identifier. Escaping goes past the separator without touching it, so the
name is cut where the three texts in one would be (`FileName.cut?_escape`), and
what remains is a question about texts: whether the first place at which three
underscores stand is the one where they were put. It is, unless a part is empty
or holds the separator itself, or the locale key ends with an underscore
(`IsSeparable`).

These are exactly the names that say what went into them, and exactly the
files that promotion takes to the path at which the cache looks for them
(`stagingFileName_isSeparable_iff`).
-/

namespace Lexicon

namespace Layout

variable {l : Layout} {v : Volume} {id key : Text} {s : StagingName}

/-! ## Staging names -/

/-- **A locale key and an identifier that a staging name keeps apart.** -/
structure IsSeparable (id key : Text) : Prop where
  /-- The locale key is not empty. -/
  key_ne_nil : key ≠ []
  /-- The identifier is not empty. -/
  id_ne_nil : id ≠ []
  /-- The locale key does not hold the separator. -/
  not_mem_key : ¬ separator <:+: key
  /-- The identifier does not hold the separator. -/
  not_mem_id : ¬ separator <:+: id
  /-- The locale key does not end with an underscore. -/
  not_suffix : ¬ (['_'] : Text) <:+ key

instance (id key : Text) : Decidable (IsSeparable id key) :=
  decidable_of_iff (key ≠ [] ∧ id ≠ [] ∧ ¬ separator <:+: key
    ∧ ¬ separator <:+: id ∧ ¬ (['_'] : Text) <:+ key)
    ⟨fun ⟨h₁, h₂, h₃, h₄, h₅⟩ => ⟨h₁, h₂, h₃, h₄, h₅⟩,
      fun h => ⟨h.1, h.2, h.3, h.4, h.5⟩⟩

theorem stagingFileName_eq (id key : Text) :
    stagingFileName id key
      = FileName.escape key ++ separator ++ FileName.escape id := by
  unfold stagingFileName
  rw [FileName.escape_append, FileName.escape_append,
    FileName.escape_separator]

@[simp] theorem separator_append_ne_nil (id key : Text) :
    key ++ separator ++ id ≠ [] := by
  rw [List.append_assoc]
  exact List.append_ne_nil_of_right_ne_nil _ (List.cons_ne_nil _ _)

theorem isEntryName_stagingFileName (id key : Text) :
    Path.IsEntryName (stagingFileName id key) :=
  FileName.isEntryName_escape (separator_append_ne_nil id key)

/-- **The name is cut between the two texts** exactly if the first neither
holds the separator nor ends with an underscore. -/
theorem cut?_stagingFileName_iff :
    Text.cut? separator (stagingFileName id key)
        = some (FileName.escape key, FileName.escape id)
      ↔ ¬ separator <:+: key ∧ ¬ (['_'] : Text) <:+ key := by
  rw [← cut?_append_separator_iff key id, stagingFileName,
    FileName.cut?_escape]
  constructor
  · intro h
    obtain ⟨⟨before, after⟩, hcut, heq⟩ := Option.map_eq_some_iff.1 h
    obtain ⟨hb, ha⟩ := Prod.mk.inj heq
    rw [hcut, FileName.escape_inj.1 hb, FileName.escape_inj.1 ha]
  · intro h
    rw [h]
    rfl

@[simp] theorem includes_stagingFileName (id key : Text) :
    (stagingFileName id key).includes separator = true := by
  rw [Text.includes_iff, stagingFileName_eq]
  exact ⟨_, _, rfl⟩

/-- **A staging name says what went into it** exactly if the two are kept
apart. -/
theorem ofText_stagingFileName_iff :
    StagingName.ofText (stagingFileName id key)
        = .ok ⟨key, FileName.escape id⟩
      ↔ IsSeparable id key := by
  rw [StagingName.ofText_eq_ok_iff]
  constructor
  · rintro ⟨front, hcut, hfront, hid, hsep, -⟩
    have hname := Text.eq_of_cut? hcut
    rw [stagingFileName_eq, List.append_left_inj, List.append_left_inj] at hname
    subst hname
    obtain ⟨hkey, hlast⟩ := cut?_stagingFileName_iff.1 hcut
    rw [FileName.includes_escape, Text.includes_eq_false_iff] at hsep
    exact ⟨mt FileName.escape_eq_nil_iff.2 hfront,
      mt FileName.escape_eq_nil_iff.2 hid, hkey, hsep, hlast⟩
  · intro h
    refine ⟨FileName.escape key,
      cut?_stagingFileName_iff.2 ⟨h.not_mem_key, h.not_suffix⟩,
      mt FileName.escape_eq_nil_iff.1 h.key_ne_nil,
      mt FileName.escape_eq_nil_iff.1 h.id_ne_nil, ?_,
      FileName.unescape_escape key⟩
    rw [FileName.includes_escape, Text.includes_eq_false_iff]
    exact h.not_mem_id

/-- **A staging name is never one without separator**: it says something, or
it is cut wrongly. -/
theorem ofText_stagingFileName (id key : Text) :
    (∃ s, StagingName.ofText (stagingFileName id key) = .ok s)
      ∨ StagingName.ofText (stagingFileName id key)
        = .error ⟨stagingFileName id key, false⟩ := by
  cases h : StagingName.ofText (stagingFileName id key) with
  | ok s => exact Or.inl ⟨s, rfl⟩
  | error e =>
    have hmissing := StagingName.missingSeparator_of_ofText h
    rw [includes_stagingFileName] at hmissing
    have hname : e.name = stagingFileName id key :=
      StagingName.name_of_ofText h
    obtain ⟨name, missing⟩ := e
    dsimp only at hname hmissing
    rw [hname, hmissing]
    exact Or.inr rfl

/-! ## Where promotion takes a staged file -/

/-- **A staged file has the destination that went into its name** only if its
name says what went into it. -/
theorem eq_of_destination
    (h : StagingName.ofText (stagingFileName id key) = .ok s)
    (hd : l.destination s = l.destination ⟨key, FileName.escape id⟩) :
    s = ⟨key, FileName.escape id⟩ := by
  have hname := isEntryName_stagingFileName id key
  have hdot : s.escapedId ≠ Path.dot := by
    intro hdot
    obtain ⟨front, hfront⟩ := StagingName.exists_eq_append h
    have hmem : (0x2E : CodePoint) ∈ stagingFileName id key := by
      rw [hfront, hdot]
      exact List.mem_append_right _ List.mem_cons_self
    exact FileName.dot_not_mem_escape _ hmem
  -- the destination has the components of the locale and the identifier
  have hparts := congrArg Path.parts hd
  rw [destination_eq l h hname, destination, cachePath,
    Path.parts_appendText_escape, Path.parts_appendText_escape, StagingName.tail,
    if_neg hdot, cacheRoot, Path.child, List.append_assoc, List.append_assoc,
    List.append_cancel_left_eq, List.singleton_append, List.cons.injEq] at hparts
  obtain ⟨-, hparts⟩ := hparts
  by_cases hkey : key = []
  · rw [if_pos hkey] at hparts
    split at hparts <;> simp at hparts
  by_cases hid : id = []
  · rw [if_neg hkey, if_pos hid] at hparts
    simp at hparts
  rw [if_neg hkey, if_neg hid, List.singleton_append, List.cons.injEq,
    List.cons.injEq] at hparts
  obtain ⟨hlocale, hident, -⟩ := hparts
  obtain ⟨localeKey, escapedId⟩ := s
  dsimp only at hlocale hident
  rw [FileName.escape_inj.1 hlocale, hident]

/-- **The destination of a promotion**: where the file has gone, or where the
system did not let it go. -/
def target? : Except PromotionError Path → Option Path
  | .ok target => some target
  | .error (.move _ target _) => some target
  | .error _ => none

/-- A storage whose cache was asked for can be passed on. -/
theorem checkText_root_of_cacheDir {dir : Path}
    (h : (l.cacheDir v key).value = .ok dir) : l.root.checkText = .ok () := by
  obtain ⟨-, hok⟩ := value_cacheDir_eq_ok_iff.1 h
  have hpath : (l.cachePath key).checkText = .ok () := by
    by_cases hk : key = []
    · subst hk
      have hroot : l.cachePath [] = l.root.child cacheName :=
        Path.appendText_escape_nil _
      rw [hroot] at hok ⊢
      exact checkText_of_ensureDir hok
    · rw [cachePath_eq l hk] at hok ⊢
      exact checkText_of_ensureDir hok
  rw [Path.checkText_eq_ok_iff] at hpath ⊢
  intro part hpart
  refine hpath part ?_
  rw [cachePath, Path.parts_appendText_escape, cacheRoot, Path.child]
  exact List.mem_append_left _ (List.mem_append_left _ hpart)

/-- **A promotion that can ask for the directory of the locale** ends as the
move to the destination does. -/
theorem value_promote {staged : Path}
    (hs : StagingName.ofText staged.name = .ok s)
    (hdir : (l.cacheDir v s.localeKey).value = .ok (l.cachePath s.localeKey)) :
    (l.promote v staged).value
      = match (l.cacheDir v s.localeKey).tree.rename staged (l.destination s) with
        | .ok _ => .ok (l.destination s)
        | .error e =>
          .error (if e.isSystem then .move staged (l.destination s) e
            else .file e) := by
  unfold promote
  rw [hs]
  dsimp only
  rw [hdir]
  dsimp only
  rw [← destination]
  cases (l.cacheDir v s.localeKey).tree.rename staged (l.destination s) <;> rfl

/-- **Promotion takes a staged file where its name says**, or fails to, if the
directory of the locale can be asked for. -/
theorem target?_promote_eq_some_iff {name : Text} {p : Path}
    (hname : Path.IsEntryName name)
    (ht : (l.stagingRoot.child name).checkText = .ok ()) :
    target? (l.promote v (l.stagingRoot.child name)).value = some p
      ↔ ∃ s, StagingName.ofText name = .ok s ∧ p = l.destination s
        ∧ (l.cacheDir v s.localeKey).value = .ok (l.cachePath s.localeKey) := by
  cases hs : StagingName.ofText name with
  | error e =>
    unfold promote
    rw [Path.name_child, hs]
    exact iff_of_false (by simp [target?]) (by simp)
  | ok s =>
    cases hdir : (l.cacheDir v s.localeKey).value with
    | error e =>
      unfold promote
      rw [Path.name_child, hs]
      dsimp only
      rw [hdir]
      refine iff_of_false (by simp [target?]) ?_
      rintro ⟨s', hs', -, hok⟩
      obtain rfl := Except.ok.inj hs'
      rw [hdir] at hok
      exact absurd hok (by simp)
    | ok dir =>
      obtain ⟨rfl, -⟩ := value_cacheDir_eq_ok_iff.1 hdir
      have htarget : target? (l.promote v (l.stagingRoot.child name)).value
          = some (l.destination s) := by
        rw [value_promote (by rw [Path.name_child, hs]) hdir]
        cases hmove : (l.cacheDir v s.localeKey).tree.rename
            (l.stagingRoot.child name) (l.destination s) with
        | ok t => rfl
        | error e =>
          dsimp only
          rw [if_pos (FileTree.isSystem_of_rename ht
            (checkText_destination hs hname ht) hmove)]
          rfl
      rw [htarget]
      constructor
      · intro hp
        exact ⟨s, rfl, (Option.some.inj hp).symm, hdir⟩
      · rintro ⟨s', hs', rfl, -⟩
        rw [Except.ok.inj hs']

theorem eq_of_value_stagingFile {p : Path}
    (h : (l.stagingFile v id key).value = .ok p) :
    p = l.stagingRoot.child (stagingFileName id key) := by
  unfold stagingFile Effect.map at h
  obtain ⟨-, -, rfl⟩ := map_eq_ok.1 h
  exact Path.appendText_escape _ (separator_append_ne_nil id key)

/-- **Staging names are taken apart again exactly where the separator cannot be
mistaken.** A name never seems to have no separator. It says the locale key and
the escaped identifier that went into it exactly if the two are kept apart, and
exactly then promotion takes the file that waits under it, or tries to, to the
cached file of that identifier and locale. -/
theorem stagingFileName_isSeparable_iff (id key : Text) :
    ((∃ s, StagingName.ofText (stagingFileName id key) = .ok s)
        ∨ StagingName.ofText (stagingFileName id key)
          = .error ⟨stagingFileName id key, false⟩)
      ∧ (StagingName.ofText (stagingFileName id key)
          = .ok ⟨key, FileName.escape id⟩ ↔ IsSeparable id key)
      ∧ ∀ (l : Layout) (v w : Volume) (staged cached : Path),
        (l.stagingFile w id key).value = .ok staged →
        (l.cacheFile v id key).value = .ok cached →
        (target? (l.promote v staged).value = some cached
          ↔ IsSeparable id key) := by
  refine ⟨ofText_stagingFileName id key, ofText_stagingFileName_iff, ?_⟩
  intro l v w staged cached hstaged hcached
  obtain ⟨rfl, hdir⟩ := value_cacheFile_eq_ok_iff.1 hcached
  obtain rfl := eq_of_value_stagingFile hstaged
  have hroot := checkText_root_of_cacheDir hdir
  have hstaging : ∀ c ∈ stagingName, c.isPassable = true :=
    List.all_eq_true.1 (show stagingName.all CodePoint.isPassable = true from rfl)
  have ht : (l.stagingRoot.child (stagingFileName id key)).checkText = .ok () :=
    Path.checkText_child.2 ⟨Path.checkText_child.2 ⟨hroot, hstaging⟩,
      fun c hc => FileName.isPassable_of_mem_escape hc⟩
  rw [target?_promote_eq_some_iff (isEntryName_stagingFileName id key) ht,
    ← ofText_stagingFileName_iff]
  constructor
  · rintro ⟨s, hs, htarget, -⟩
    rw [hs, eq_of_destination hs htarget.symm]
  · intro h
    exact ⟨_, h, rfl, hdir⟩

/-- In the sample an identifier finds its way to its locale, but not to one
whose key ends with an underscore. -/
theorem stagingFileName_isSeparable_iff_sample :
    IsSeparable (lit "x") (lit "en") ∧ ¬ IsSeparable (lit "x") (lit "en_")
      ∧ (sample.stagingFile sampleVolume (lit "x") (lit "en")).value
        = .ok (sample.stagingRoot.child (lit "en___x"))
      ∧ target? (sample.promote sampleVolume
          (sample.stagingRoot.child (lit "en___x"))).value
        = some ⟨.relative, [lit "root", lit "dicts", lit "en", lit "x"]⟩
      ∧ target? (sample.promote sampleVolume
          (sample.stagingRoot.child (lit "en____x"))).value
        ≠ some ⟨.relative, [lit "root", lit "dicts", lit "en_", lit "x"]⟩ := by
  have hyes : IsSeparable (lit "x") (lit "en") := by decide +kernel
  have hno : ¬ IsSeparable (lit "x") (lit "en_") := by decide +kernel
  have hstaged : (sample.stagingFile sampleVolume (lit "x") (lit "en")).value
      = .ok (sample.stagingRoot.child (lit "en___x")) := by
    decide +kernel
  obtain ⟨-, -, h⟩ := stagingFileName_isSeparable_iff (lit "x") (lit "en")
  obtain ⟨-, -, h'⟩ := stagingFileName_isSeparable_iff (lit "x") (lit "en_")
  refine ⟨hyes, hno, hstaged, ?_, ?_⟩
  · exact (h sample sampleVolume sampleVolume _ _ hstaged
      (by decide +kernel)).2 hyes
  · exact fun hp => hno ((h' sample sampleVolume sampleVolume _ _
      (by decide +kernel) (by decide +kernel)).1 hp)

end Layout

end Lexicon
