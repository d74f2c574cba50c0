import Lexicon.Proofs.Bundle.Lookup

/-!
# Entries that cannot be asked about

A bundle without a declaration goes through the names of its directory, in
order, and takes the key of each plain file. Elsewhere in the library an entry
that cannot be asked about is skipped and costs only itself; here it ends the
walk. So it takes away the keys behind it as well: a key is told exactly if
there is a plain file for it and every entry in front of that one can be asked
about (`locales_isolates_iff`).

Names come in order and each once, which is why the part of them in front of
the first failure can be told by comparing names (`Text.mem_takeWhile_iff`).
-/

namespace Lexicon

/-- **The names in front of the first that fails a test** are those that pass it
together with all that come before them. -/
theorem Text.mem_takeWhile_iff {test : Text → Bool} {names : List Text}
    {name : Text} (h : names.Pairwise (· < ·)) :
    name ∈ names.takeWhile test
      ↔ name ∈ names ∧ test name = true
        ∧ ∀ other ∈ names, other < name → test other = true := by
  induction names with
  | nil => simp
  | cons first rest ih =>
    obtain ⟨hfirst, hrest⟩ := List.pairwise_cons.1 h
    by_cases htest : test first = true
    · rw [List.takeWhile_cons_of_pos htest, List.mem_cons, ih hrest,
        List.forall_mem_cons, List.mem_cons]
      constructor
      · rintro (rfl | ⟨hname, hpass, hbefore⟩)
        · refine ⟨Or.inl rfl, htest, fun _ => htest, fun other ho hlt => ?_⟩
          exact absurd hlt (List.lt_asymm (hfirst other ho))
        · exact ⟨Or.inr hname, hpass, fun _ => htest, hbefore⟩
      · rintro ⟨rfl | hname, hpass, -, hbefore⟩
        · exact Or.inl rfl
        · exact Or.inr ⟨hname, hpass, hbefore⟩
    · -- the first name fails, and it comes before every other
      rw [List.takeWhile_cons_of_neg htest]
      refine iff_of_false List.not_mem_nil ?_
      rintro ⟨hname, hpass, hbefore⟩
      obtain rfl | hname := List.mem_cons.1 hname
      · exact htest hpass
      · exact htest (hbefore first List.mem_cons_self (hfirst name hname))

namespace Bundle

variable {b : Bundle} {v : Volume} {key name : Text}

/-- **A key of the directory of a bundle**: it is not empty, and the entry of its
name can be asked about and is a plain file. -/
structure HasKey (b : Bundle) (v : Volume) (key : Text) : Prop where
  /-- It is not empty. -/
  ne_nil : key ≠ []
  /-- Its name is in the directory. -/
  listed : b.nameOf key ∈ v.namesIn b.directory
  /-- A plain file is shown there. -/
  shown : v.shows FileTree.isFile (b.directory.child (b.nameOf key)) = true

/-- **A key is reached** if every entry whose name comes before the one for the
key can be asked about. -/
def Reaches (b : Bundle) (v : Volume) (key : Text) : Prop :=
  ∀ name ∈ v.namesIn b.directory, name < b.nameOf key →
    ∃ answer, v.isFile (b.directory.child name) = .ok answer

/-- **Keys among which every entry stands for itself**: all the keys of the
directory and no others, in the order of their names. -/
structure Isolates (b : Bundle) (v : Volume) (keys : List Text) : Prop where
  /-- They come in the order of their names. -/
  ordered : (keys.map b.nameOf).Pairwise (· < ·)
  /-- They are the keys of the directory. -/
  mem_iff : ∀ key, key ∈ keys ↔ b.HasKey v key

/-- The key of an entry is that of its name, if a plain file is shown there. -/
@[simp] theorem entryKey?_child_eq_some_iff :
    b.entryKey? v (b.directory.child name) = some key
      ↔ key ≠ [] ∧ name = b.nameOf key
        ∧ v.shows FileTree.isFile (b.directory.child name) = true := by
  unfold entryKey?
  rw [Path.name_child]
  split
  · rename_i hfile
    rw [keyOf?_eq_some_iff, hfile]
    simp
  · rename_i hfile
    exact iff_of_false (by simp) fun h => hfile h.2.2

/-- **The keys that a walk over the directory finds** are read off the names in
front of the first entry that cannot be asked about. -/
theorem fst_keysOf_namesIn (b : Bundle) (v : Volume) :
    (b.keysOf v ((v.namesIn b.directory).map b.directory.child)).1
      = ((v.namesIn b.directory).takeWhile fun name =>
          (v.isFile (b.directory.child name)).toOption.isSome).filterMap
        fun name => b.entryKey? v (b.directory.child name) := by
  rw [fst_keysOf, List.takeWhile_map, List.filterMap_map]
  rfl

theorem pairwise_keysOf (b : Bundle) (v : Volume) :
    ((b.keysOf v ((v.namesIn b.directory).map b.directory.child)).1.map
      b.nameOf).Pairwise (· < ·) := by
  rw [fst_keysOf_namesIn, List.pairwise_map]
  refine ((Volume.pairwise_namesIn v b.directory).sublist
    (List.takeWhile_sublist _)).filterMap _ fun name name' hlt key hkey key' hkey' => ?_
  obtain ⟨-, rfl, -⟩ := entryKey?_child_eq_some_iff.1 hkey
  obtain ⟨-, rfl, -⟩ := entryKey?_child_eq_some_iff.1 hkey'
  exact hlt

/-- **A key is found** exactly if it is one of the directory and is reached. -/
theorem mem_keysOf_iff :
    key ∈ (b.keysOf v ((v.namesIn b.directory).map b.directory.child)).1
      ↔ b.HasKey v key ∧ b.Reaches v key := by
  have hasked : ∀ name,
      (v.isFile (b.directory.child name)).toOption.isSome = true
        ↔ ∃ answer, v.isFile (b.directory.child name) = .ok answer := by
    intro name
    cases v.isFile (b.directory.child name) <;> simp [Except.toOption]
  rw [fst_keysOf_namesIn, List.mem_filterMap]
  constructor
  · rintro ⟨name, hname, hread⟩
    obtain ⟨hne, rfl, hfile⟩ := entryKey?_child_eq_some_iff.1 hread
    obtain ⟨hlisted, -, hbefore⟩ :=
      (Text.mem_takeWhile_iff (Volume.pairwise_namesIn v b.directory)).1 hname
    exact ⟨⟨hne, hlisted, hfile⟩,
      fun other ho hlt => (hasked other).1 (hbefore other ho hlt)⟩
  · rintro ⟨⟨hne, hlisted, hfile⟩, hreached⟩
    refine ⟨b.nameOf key, ?_, entryKey?_child_eq_some_iff.2 ⟨hne, rfl, hfile⟩⟩
    refine (Text.mem_takeWhile_iff
      (Volume.pairwise_namesIn v b.directory)).2 ⟨hlisted, ?_, ?_⟩
    · exact (hasked _).2 ⟨true, Volume.isKind_eq_ok_true_iff.2 hfile⟩
    · exact fun other ho hlt => (hasked other).2 (hreached other ho hlt)

/-- **An entry that cannot be asked about takes away every key behind it.** A
bundle without a declaration whose directory can be asked about tells keys in
the order of their names: those of its directory that are reached. So each entry
stands for itself exactly if no key stands behind an entry that cannot be asked
about. -/
theorem locales_isolates_iff (b : Bundle) (v : Volume) (hd : b.declared? = none)
    (hdir : v.isDir b.directory = .ok true) :
    ∃ keys, (b.locales v).value = .ok keys
      ∧ (keys.map b.nameOf).Pairwise (· < ·)
      ∧ (∀ key, key ∈ keys ↔ b.HasKey v key ∧ b.Reaches v key)
      ∧ (b.Isolates v keys ↔ ∀ key, b.HasKey v key → b.Reaches v key) := by
  refine ⟨_, value_locales hd hdir, pairwise_keysOf b v, fun _ => mem_keysOf_iff,
    ?_⟩
  constructor
  · intro h key hkey
    exact (mem_keysOf_iff.1 ((h.mem_iff key).2 hkey)).2
  · intro h
    refine ⟨pairwise_keysOf b v, fun key => ?_⟩
    rw [mem_keysOf_iff]
    exact and_iff_left_of_imp (h key)

/-- A bundle of three dictionaries, the second of which may not be asked
about. -/
def lockedBundle : Bundle where
  directory := ⟨.relative, [lit "assets"]⟩

/-- The volume with its directory. -/
def lockedVolume : Volume where
  tree := .dir [(lit "assets", .dir [(lit "main_da", .file ⟨.bytes [], 0⟩),
    (lit "main_de", .file ⟨.bytes [], 0⟩), (lit "main_fr", .file ⟨.bytes [], 0⟩)])]
  denied := { inspect := fun p => p = ⟨.relative, [lit "assets", lit "main_de"]⟩ }

/-- In the sample the first key is told. The third is a key of the directory as
well, but is lost behind the second, which cannot be asked about. -/
theorem locales_isolates_iff_sample :
    lockedVolume.isDir lockedBundle.directory = .ok true
      ∧ lockedBundle.HasKey lockedVolume (lit "fr")
      ∧ (lockedBundle.locales lockedVolume).value = .ok [lit "da"]
      ∧ ¬ lockedBundle.Isolates lockedVolume [lit "da"] := by
  have hdir : lockedVolume.isDir lockedBundle.directory = .ok true := by
    decide +kernel
  have hkey : lockedBundle.HasKey lockedVolume (lit "fr") :=
    ⟨by decide, by decide +kernel, by decide +kernel⟩
  have hvalue : (lockedBundle.locales lockedVolume).value = .ok [lit "da"] := by
    decide +kernel
  obtain ⟨keys, hkeys, -, hmem, hiff⟩ :=
    locales_isolates_iff lockedBundle lockedVolume rfl hdir
  obtain rfl := Except.ok.inj (hvalue.symm.trans hkeys)
  refine ⟨hdir, hkey, hvalue, fun h => ?_⟩
  have hlost : lit "fr" ∈ [lit "da"] := (hmem _).2 ⟨hkey, hiff.1 h _ hkey⟩
  exact absurd hlost (by decide)

end Bundle

end Lexicon
