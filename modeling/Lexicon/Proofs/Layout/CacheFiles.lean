import Lexicon.Proofs.Layout.CacheDirectory

/-!
# Where cached files lie

The cached file of a word list is named after its identifier, in the directory
that is named after its locale key. Both names are escaped, so whatever code
points the identifier and the key hold, either is a single component that leads
neither upward nor elsewhere and tells what it was made of (`IsComponentOf`).

A text that is empty leaves no component. So the path of a cached file goes on
behind the cache by the names of those of the two texts that are not empty
(`eq_of_value_cacheFile`), and the only way for two word lists to share a file
is that one has no identifier and the other no locale
(`Layout.cacheFile_contained`).
-/

namespace Lexicon

namespace Layout

variable {l : Layout} {v : Volume} {id key : Text} {p : Path}

/-! ## Components -/

/-- **A single component of a path that tells a text**, in digits, ASCII
letters, underscores and percent signs alone. -/
structure IsComponentOf (name text : Text) : Prop where
  /-- It is a name that a directory can show. -/
  isEntryName : Path.IsEntryName name
  /-- It keeps to the alphabet. -/
  alphabet : ∀ c ∈ name, (('0' : CodePoint) ≤ c ∧ c ≤ '9') ∨ ('A' ≤ c ∧ c ≤ 'Z')
    ∨ ('a' ≤ c ∧ c ≤ 'z') ∨ c = '_' ∨ c = '%'
  /-- It reads as the text. -/
  unescape_eq : FileName.unescape name = .ok text

theorem isComponentOf_escape (hk : key ≠ []) :
    IsComponentOf (FileName.escape key) key where
  isEntryName := FileName.isEntryName_escape hk
  alphabet _ hc := FileName.inAlphabet_iff.1 (FileName.inAlphabet_of_mem_escape hc)
  unescape_eq := FileName.unescape_escape key

/-! ## Paths in the cache -/

/-- The directory of a locale is where it is to be, if it can be told. -/
theorem value_cacheDir_eq_ok_iff {dir : Path} :
    (l.cacheDir v key).value = .ok dir
      ↔ dir = l.cachePath key
        ∧ (ensureDir v (l.cachePath key) (lit "locale " ++ key)).value
          = .ok () := by
  unfold cacheDir Effect.map
  rw [map_eq_ok]
  constructor
  · rintro ⟨⟨⟩, hok, rfl⟩
    exact ⟨rfl, hok⟩
  · rintro ⟨rfl, hok⟩
    exact ⟨(), hok, rfl⟩

/-- **The cached file of a word list** lies in the directory of its locale, if
that can be told. -/
theorem value_cacheFile_eq_ok_iff :
    (l.cacheFile v id key).value = .ok p
      ↔ p = (l.cachePath key).appendText (FileName.escape id)
        ∧ (l.cacheDir v key).value = .ok (l.cachePath key) := by
  unfold cacheFile Effect.map
  rw [map_eq_ok]
  constructor
  · rintro ⟨dir, hdir, rfl⟩
    obtain ⟨rfl, -⟩ := value_cacheDir_eq_ok_iff.1 hdir
    exact ⟨rfl, hdir⟩
  · rintro ⟨rfl, hdir⟩
    exact ⟨_, hdir, rfl⟩

/-- **The names that lead from the cache to a cached file**: those of the locale
key and of the identifier, without the empty ones. -/
def cacheNames (id key : Text) : List Text :=
  ([key, id].filter (· ≠ [])).map FileName.escape

/-- **The path of a cached file** goes on behind the cache by its names. -/
theorem eq_of_value_cacheFile (h : (l.cacheFile v id key).value = .ok p) :
    p = ⟨l.cacheRoot.anchor, l.cacheRoot.parts ++ cacheNames id key⟩ := by
  have hnames : cacheNames id key
      = (if key = [] then [] else [FileName.escape key])
        ++ if id = [] then [] else [FileName.escape id] := by
    unfold cacheNames
    by_cases hk : key = [] <;> by_cases hi : id = [] <;> simp [hk, hi]
  obtain ⟨rfl, -⟩ := value_cacheFile_eq_ok_iff.1 h
  rw [Path.appendText_escape_eq, cachePath, Path.appendText_escape_eq, hnames,
    ← List.append_assoc]

/-- **The same names lead to two cached files** exactly if locale keys and
identifiers are the same, or one file has no locale key, the other no
identifier, and what they have is the same. -/
theorem cacheNames_inj {id' key' : Text} :
    cacheNames id key = cacheNames id' key'
      ↔ (key = key' ∧ id = id') ∨ (key = [] ∧ id' = [] ∧ id = key')
        ∨ (id = [] ∧ key' = [] ∧ key = id') := by
  unfold cacheNames
  rw [(List.map_injective_iff.2 FileName.escape_injective).eq_iff]
  -- which of the four texts are empty decides how many names there are
  by_cases hk : key = [] <;> by_cases hi : id = [] <;>
    by_cases hk' : key' = [] <;> by_cases hi' : id' = [] <;>
    simp [hk, hi, hk', hi']

/-- **Cached files are contained and told apart.** Whatever code points they
hold, an identifier and a locale key that are not empty have their cached file
in the cache, two components below it: one tells the locale key and one the
identifier. Two cached files are the same exactly if identifier and locale key
are – but for those that have only an identifier or only a locale key, which
are the same if these are, and lie in the cache under its escaped form. -/
theorem cacheFile_contained {v' : Volume} {id' key' : Text} {p' : Path}
    (h : (l.cacheFile v id key).value = .ok p)
    (h' : (l.cacheFile v' id' key').value = .ok p') :
    (id ≠ [] → key ≠ [] → ∃ a b,
        p = ((l.root.child cacheName).child a).child b
          ∧ IsComponentOf a key ∧ IsComponentOf b id)
      ∧ (p = p' ↔ (id, key) = (id', key')
        ∨ ∃ x, ((id, key) = (x, []) ∧ (id', key') = ([], x))
          ∨ ((id, key) = ([], x) ∧ (id', key') = (x, [])))
      ∧ ∀ x, (id, key) = (x, []) ∨ (id, key) = ([], x) →
        p = (l.root.child cacheName).appendText (FileName.escape x) := by
  have hp := eq_of_value_cacheFile h
  have hp' := eq_of_value_cacheFile h'
  refine ⟨?_, ?_, ?_⟩
  · intro hi hk
    refine ⟨FileName.escape key, FileName.escape id, ?_, isComponentOf_escape hk,
      isComponentOf_escape hi⟩
    obtain ⟨hpath, -⟩ := value_cacheFile_eq_ok_iff.1 h
    rw [hpath, cachePath_eq l hk, Path.appendText_escape _ hi]
  · have hnames : p = p' ↔ cacheNames id key = cacheNames id' key' := by
      rw [hp, hp', Path.mk.injEq, and_iff_right rfl, List.append_right_inj]
    rw [hnames, cacheNames_inj]
    simp only [Prod.mk.injEq]
    constructor
    · rintro (⟨rfl, rfl⟩ | ⟨rfl, rfl, rfl⟩ | ⟨rfl, rfl, rfl⟩)
      · exact Or.inl ⟨rfl, rfl⟩
      · exact Or.inr ⟨id, Or.inl ⟨⟨rfl, rfl⟩, rfl, rfl⟩⟩
      · exact Or.inr ⟨key, Or.inr ⟨⟨rfl, rfl⟩, rfl, rfl⟩⟩
    · rintro (⟨rfl, rfl⟩ | ⟨x, ⟨⟨rfl, rfl⟩, rfl, rfl⟩ | ⟨⟨rfl, rfl⟩, rfl, rfl⟩⟩)
      · exact Or.inl ⟨rfl, rfl⟩
      · exact Or.inr (Or.inl ⟨rfl, rfl, rfl⟩)
      · exact Or.inr (Or.inr ⟨rfl, rfl, rfl⟩)
  · intro x hx
    obtain ⟨hpath, -⟩ := value_cacheFile_eq_ok_iff.1 h
    rw [hpath, cachePath, cacheRoot]
    obtain hx | hx := hx
    · obtain ⟨rfl, rfl⟩ := Prod.mk.inj hx
      rw [Path.appendText_escape_nil]
    · obtain ⟨rfl, rfl⟩ := Prod.mk.inj hx
      rw [Path.appendText_escape_nil]

/-- A storage of which nothing was made yet. -/
def unmade : Layout where
  root := ⟨.relative, [lit "root"]⟩

/-- In the sample an identifier that would lead upward is contained, and one
without a locale has the file of the locale of the same name. -/
theorem cacheFile_contained_sample :
    (unmade.cacheFile ⟨.dir [], {}⟩ (lit "../x") (lit "en")).value
        = .ok ⟨.relative, [lit "root", lit "dicts", lit "en",
          lit "%00002e%00002e%00002fx"]⟩
      ∧ (∃ a b, (⟨.relative, [lit "root", lit "dicts", lit "en",
            lit "%00002e%00002e%00002fx"]⟩ : Path)
          = ((unmade.root.child cacheName).child a).child b
        ∧ IsComponentOf a (lit "en") ∧ IsComponentOf b (lit "../x"))
      ∧ (unmade.cacheFile ⟨.dir [], {}⟩ (lit "en") []).value
        = (unmade.cacheFile ⟨.dir [], {}⟩ [] (lit "en")).value := by
  have hfile : (unmade.cacheFile ⟨.dir [], {}⟩ (lit "../x") (lit "en")).value
      = .ok ⟨.relative, [lit "root", lit "dicts", lit "en",
        lit "%00002e%00002e%00002fx"]⟩ := by
    decide +kernel
  have hid : (unmade.cacheFile ⟨.dir [], {}⟩ (lit "en") []).value
      = .ok ⟨.relative, [lit "root", lit "dicts", lit "en"]⟩ := by
    decide +kernel
  have hkey : (unmade.cacheFile ⟨.dir [], {}⟩ [] (lit "en")).value
      = .ok ⟨.relative, [lit "root", lit "dicts", lit "en"]⟩ := by
    decide +kernel
  have hsame := (cacheFile_contained hid hkey).2.1.2
    (Or.inr ⟨lit "en", Or.inl ⟨rfl, rfl⟩⟩)
  refine ⟨hfile, ?_, ?_⟩
  · exact (cacheFile_contained hfile hfile).1 (by decide) (by decide)
  · exact hid.trans ((congrArg Except.ok hsame).trans hkey.symm)

end Layout

end Lexicon
