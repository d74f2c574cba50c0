import Lexicon.Proofs.Bundle.Isolation

/-!
# What a bundle has

The keys of a bundle, and the file it has for a locale, said by the names in
its directory. A bundle walks over the directory and asks for one name after
the other, and each of its questions may be refused; here the keys are those of
a part of the names, and the file is the first of two. It is shown that the
bundle tells these keys (`getD_locales_eq_keys`), finds this file
(`resource?_eq`) and reads the locale of a name as it is read here
(`localeOf_eq_localeIn`).
-/

namespace Lexicon

/-- **The first of some paths that is not known to be no plain file**, if it is
one. -/
def Volume.firstFile? (v : Volume) (paths : List Path) : Option (Path × File) :=
  (paths.find? (v.isFile · ≠ .ok false)).bind fun p =>
    (v.file? p).map fun f => (p, f)

theorem Volume.firstFile?_cons (v : Volume) (p : Path) (rest : List Path) :
    v.firstFile? (p :: rest)
      = if v.isFile p = .ok false then v.firstFile? rest
        else (v.file? p).map fun f => (p, f) := by
  unfold firstFile?
  rw [List.find?_cons]
  by_cases h : v.isFile p = .ok false <;> simp [h]

namespace Bundle

variable {b : Bundle} {v : Volume} {key name : Text}

/-! ## Keys -/

/-- The key in a name of the form `main_<key>`, closed by the ending of the
bundle. -/
def namedKey? (b : Bundle) (name : Text) : Option Text :=
  ((name.dropPrefix? (lit "main_")).bind (·.dropSuffix? b.ending)).filter
    (· ≠ [])

/-- **The keys of a bundle**: those that it declares, or else those in the names
of the plain files of its directory, up to the first entry that cannot be asked
about. -/
def keys (b : Bundle) (v : Volume) : List Text :=
  b.declared?.getD
    (((v.namesIn b.directory).takeWhile fun name =>
      (v.isFile (b.directory.child name)).toOption.isSome).filterMap fun name =>
        (v.file? (b.directory.child name)).bind fun _ => b.namedKey? name)

theorem namedKey?_eq_some_iff :
    b.namedKey? name = some key ↔ key ≠ [] ∧ name = b.nameOf key := by
  unfold namedKey? nameOf
  simp only [Option.filter_eq_some_iff, Option.bind_eq_some_iff,
    List.dropPrefix?_eq_some_iff, List.dropSuffix?_eq_some_iff, beq_iff_eq,
    decide_eq_true_eq]
  constructor
  · rintro ⟨⟨_, ⟨_, rfl, rfl⟩, _, rfl, rfl⟩, hne⟩
    exact ⟨hne, (List.append_assoc _ _ _).symm⟩
  · rintro ⟨hne, rfl⟩
    exact ⟨⟨_, ⟨_, List.append_assoc _ _ _, rfl⟩, _, rfl, rfl⟩, hne⟩

/-- **The key of a name is read** off it as the bundle reads it. -/
theorem keyOf?_eq_namedKey? (b : Bundle) (name : Text) :
    b.keyOf? name = b.namedKey? name :=
  Option.ext fun _ => keyOf?_eq_some_iff.trans namedKey?_eq_some_iff.symm

/-- **A bundle tells its keys**, if it can tell any. -/
theorem getD_locales_eq_keys (b : Bundle) (v : Volume) :
    (b.locales v).value.toOption.getD [] = b.keys v := by
  cases hd : b.declared? with
  | some declared =>
    unfold locales keys
    rw [hd]
    rfl
  | none =>
    rw [getD_locales hd, fst_keysOf_namesIn, keys, hd, Option.getD_none]
    refine List.filterMap_congr fun name _ => ?_
    unfold entryKey?
    rw [Volume.shows_isFile, Path.name_child, keyOf?_eq_namedKey?]
    cases v.file? (b.directory.child name) <;> rfl

/-! ## Files -/

/-- The names under which a locale is looked up, in order: with a region by its
whole text first, and by its language. -/
def namesFor (b : Bundle) (l : Locale) : List Text :=
  ((if l.region = [] then [] else [l.toText.lower]) ++ [l.language]).map
    fun key => lit "main_" ++ key ++ b.ending

/-- **What a bundle has for a locale**: the first of its names that is not known
to be no plain file, if it is one. -/
def resource? (b : Bundle) (v : Volume) (l : Locale) : Option (Path × File) :=
  v.firstFile? ((b.namesFor l).map b.directory.appendText)

/-- **A bundle asks for the first of its names**, and for the others if that is
known to be no plain file. -/
theorem firstFile?_appendText_cons (b : Bundle) (v : Volume) (name : Text)
    (rest : List Path) :
    v.firstFile? (b.directory.appendText name :: rest)
      = if b.file? v name = .ok none then v.firstFile? rest
        else (b.file? v name).toOption.join.bind fun p =>
          (v.file? p).map fun f => (p, f) := by
  have hfile : b.file? v name = (v.isFile (b.directory.appendText name)).map
      fun isFile => if isFile then some (b.directory.appendText name) else none :=
    rfl
  rw [Volume.firstFile?_cons, hfile]
  by_cases hno : v.isFile (b.directory.appendText name) = .ok false
  · rw [if_pos hno, if_pos (by rw [hno]; rfl)]
  rw [if_neg hno]
  cases hask : v.isFile (b.directory.appendText name) with
  | error e =>
    -- what cannot be asked about is not shown
    have hnone : v.file? (b.directory.appendText name) = none := by
      rw [← Option.not_isSome_iff_eq_none, ← Volume.shows_isFile,
        ← Volume.isKind_eq_ok_true_iff, ← Volume.isFile, hask]
      simp
    rw [hnone]
    rfl
  | ok isFile =>
    cases isFile with
    | false => exact absurd hask hno
    | true => rfl

/-- **What a bundle finds is what it has.** -/
theorem resource?_eq (b : Bundle) (v : Volume) (l : Locale) :
    b.resource? v l
      = (b.find? v l).toOption.join.bind fun p =>
        (v.file? p).map fun f => (p, f) := by
  have hlanguage : v.firstFile? [b.directory.appendText (b.languageName l)]
      = (b.file? v (b.languageName l)).toOption.join.bind fun p =>
        (v.file? p).map fun f => (p, f) := by
    rw [firstFile?_appendText_cons]
    split
    · rename_i hnone
      rw [hnone]
      rfl
    · rfl
  unfold resource? namesFor find?
  by_cases hr : l.region = []
  · rw [if_pos hr, if_neg (not_not.2 hr)]
    exact hlanguage
  · rw [if_neg hr, if_pos hr]
    refine (firstFile?_appendText_cons b v (b.fullName l) _).trans ?_
    rcases b.file? v (b.fullName l) with e | (- | p)
    · rfl
    · exact hlanguage
    · rfl

/-! ## Locales of names -/

/-- The locale in the name of a file of the bundle: without the ending, if it
has that, and without the mark in front. -/
def localeIn (b : Bundle) (name : Text) : Locale :=
  Locale.ofText
    (((name.dropSuffix? b.ending).getD name).drop (lit "main_").length)

theorem localeOf_eq_localeIn (b : Bundle) (name : Text) :
    b.localeOf name = b.localeIn name := by
  unfold localeOf localeIn
  dsimp only
  refine congrArg (fun stem : Text => Locale.ofText (stem.drop mainMark.length)) ?_
  split
  · rename_i hend
    obtain ⟨stem, rfl⟩ := List.isSuffixOf_iff_suffix.1 hend
    rw [Text.dropLastN_append,
      List.dropSuffix?_eq_some_iff.2 ⟨_, rfl, beq_self_eq_true _⟩,
      Option.getD_some]
  · rename_i hend
    have hnone : name.dropSuffix? b.ending = none := by
      refine Option.eq_none_iff_forall_ne_some.2 fun stem h => hend ?_
      obtain ⟨_, rfl, hsame⟩ := List.dropSuffix?_eq_some_iff.1 h
      obtain rfl := beq_iff_eq.1 hsame
      exact List.isSuffixOf_iff_suffix.2 (List.suffix_append _ _)
    rw [hnone, Option.getD_none]

end Bundle

end Lexicon
