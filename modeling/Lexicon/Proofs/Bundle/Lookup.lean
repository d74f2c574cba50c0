import Mathlib.Data.List.TakeWhile
import Lexicon.Bundle
import Lexicon.Proofs.Locale.Reading
import Lexicon.Proofs.Path.Names
import Lexicon.Proofs.Volume.Entries

/-!
# What a bundle declares and what it finds

A bundle that declares no locales takes them from the names of its files, and
looks a locale up under a name that it makes of the locale. The two ways meet in
`Bundle.nameOf`: the key is read off such a name again (`keyOf?_nameOf`), so is
its locale (`localeOf_nameOf`), and the locale of a key that is spelled as its
lower-case text is looked up under the key, unless it has a script and no region
(`find?_nameOf`).
-/

namespace Lexicon

@[simp] theorem Text.dropLastN_append (t u : Text) :
    Text.dropLastN (t ++ u) u.length = t := by
  unfold dropLastN
  rw [List.length_append, Nat.add_sub_cancel_right, List.take_left]

namespace Bundle

variable {b : Bundle} {v : Volume} {key name : Text} {p : Path}

/-! ## Names -/

/-- **The name under which a bundle keeps the dictionary of a key.** -/
def nameOf (b : Bundle) (key : Text) : Text :=
  mainMark ++ key ++ b.ending

@[simp] theorem dropLastN_nameOf (b : Bundle) (key : Text) :
    (b.nameOf key).dropLastN b.ending.length = mainMark ++ key :=
  Text.dropLastN_append _ _

@[simp] theorem endsWith_nameOf (b : Bundle) (key : Text) :
    (b.nameOf key).endsWith b.ending = true :=
  List.isSuffixOf_iff_suffix.2 (List.suffix_append _ _)

/-- **A key is read off a name** exactly if the name is the one for the key, and
the key is not empty. -/
theorem keyOf?_eq_some_iff :
    b.keyOf? name = some key ↔ key ≠ [] ∧ name = b.nameOf key := by
  constructor
  · intro h
    unfold keyOf? at h
    split at h
    · rename_i hmarked
      obtain ⟨hstart, hend⟩ := Bool.and_eq_true_iff.1 hmarked
      obtain ⟨stem, rfl⟩ := List.isSuffixOf_iff_suffix.1 hend
      rw [Text.dropLastN_append] at h
      split at h
      · exact absurd h (by simp)
      · rename_i hne
        obtain rfl := Option.some.inj h
        refine ⟨hne, ?_⟩
        -- something is left of the stem, so the mark does not reach the ending
        have hlong : mainMark.length ≤ stem.length := by
          by_contra hshort
          exact hne (List.drop_eq_nil_of_le (Nat.le_of_not_le hshort))
        have hmark : mainMark <+: stem :=
          List.prefix_of_prefix_length_le (List.isPrefixOf_iff_prefix.1 hstart)
            (List.prefix_append _ _) hlong
        unfold nameOf
        rw [← List.prefix_iff_eq_append.1 hmark]
        simp
    · exact absurd h (by simp)
  · rintro ⟨hkey, rfl⟩
    have hstart : (b.nameOf key).startsWith mainMark = true := by
      unfold nameOf
      rw [List.append_assoc]
      exact List.isPrefixOf_iff_prefix.2 (List.prefix_append _ _)
    unfold keyOf?
    rw [hstart, endsWith_nameOf, dropLastN_nameOf, List.drop_left]
    obtain ⟨c, rest, rfl⟩ := List.exists_cons_of_ne_nil hkey
    rfl

/-- **A key is read off the name again.** -/
@[simp] theorem keyOf?_nameOf (b : Bundle) (h : key ≠ []) :
    b.keyOf? (b.nameOf key) = some key :=
  keyOf?_eq_some_iff.2 ⟨h, rfl⟩

/-- **So is its locale.** -/
@[simp] theorem localeOf_nameOf (b : Bundle) (key : Text) :
    b.localeOf (b.nameOf key) = Locale.ofText key := by
  unfold localeOf
  rw [if_pos (b.endsWith_nameOf key), dropLastN_nameOf]
  dsimp only
  rw [List.drop_left]

/-! ## Declared locales -/

/-- The key of an entry at which a plain file is shown. -/
def entryKey? (b : Bundle) (v : Volume) (p : Path) : Option Text :=
  if v.shows FileTree.isFile p then b.keyOf? p.name else none

/-- **The keys of some entries** are those of the plain files in front of the
first entry that cannot be asked about. -/
theorem fst_keysOf (b : Bundle) (v : Volume) (paths : List Path) :
    (b.keysOf v paths).1
      = (paths.takeWhile fun p => (v.isFile p).toOption.isSome).filterMap
        (b.entryKey? v) := by
  induction paths with
  | nil => rfl
  | cons p rest ih =>
    unfold keysOf entryKey?
    cases hp : v.isFile p with
    | error e => rw [List.takeWhile_cons_of_neg (by rw [hp]; exact Bool.false_ne_true)]; rfl
    | ok isFile =>
      have hshows : v.shows FileTree.isFile p = isFile := by
        cases isFile with
        | true => exact Volume.isKind_eq_ok_true_iff.1 hp
        | false => exact Volume.shows_eq_false (by
            rw [← Volume.isFile, hp]; decide)
      rw [List.takeWhile_cons_of_pos (by rw [hp]; rfl), List.filterMap_cons,
        hshows]
      dsimp only
      rw [ih]
      cases isFile with
      | false => rfl
      | true => cases b.keyOf? p.name <;> rfl

/-- **A bundle that can ask about its directory** tells the keys in it. Where the
directory may not be listed, there are no names. -/
theorem value_locales (hd : b.declared? = none)
    (hdir : v.isDir b.directory = .ok true) :
    (b.locales v).value
      = .ok (b.keysOf v ((v.namesIn b.directory).map b.directory.child)).1 := by
  obtain ⟨t, hn, ht⟩ :=
    Volume.shows_eq_true_iff.1 (Volume.isKind_eq_ok_true_iff.1 hdir)
  unfold locales
  rw [hd, hdir]
  dsimp only
  rw [Volume.list_of_node hn ht]
  by_cases hlist : v.denied.list b.directory = true
  · rw [if_pos hlist, Volume.namesIn, if_pos hlist]
    rfl
  · rw [if_neg hlist]
    dsimp only
    rcases b.keysOf v _ with ⟨keys, - | e⟩ <;> rfl

/-- **A bundle without a declaration declares the keys in its directory.** Where
none is shown there are no names. -/
theorem getD_locales (hd : b.declared? = none) :
    (b.locales v).value.toOption.getD []
      = (b.keysOf v ((v.namesIn b.directory).map b.directory.child)).1 := by
  have hnil : v.isDir b.directory ≠ .ok true → v.namesIn b.directory = [] :=
    fun hdir => List.eq_nil_iff_forall_not_mem.2 fun _ hname =>
      hdir (Volume.isDir_of_mem_namesIn hname)
  cases hdir : v.isDir b.directory with
  | error e =>
    unfold locales
    rw [hd, hdir, hnil (by rw [hdir]; simp)]
    rfl
  | ok answer =>
    cases answer with
    | false =>
      unfold locales
      rw [hd, hdir, hnil (by rw [hdir]; simp)]
      rfl
    | true =>
      rw [value_locales hd hdir]
      rfl

/-- **A locale that a bundle does not declare** is the key of a name in its
directory. -/
theorem exists_name_of_mem_locales (hd : b.declared? = none)
    (hkey : key ∈ (b.locales v).value.toOption.getD []) :
    ∃ name ∈ v.namesIn b.directory, b.keyOf? name = some key := by
  rw [getD_locales hd, fst_keysOf] at hkey
  obtain ⟨p, hp, hread⟩ := List.mem_filterMap.1 hkey
  obtain ⟨name, hname, rfl⟩ :=
    List.mem_map.1 (List.takeWhile_subset _ hp)
  unfold entryKey? at hread
  split at hread
  · rw [Path.name_child] at hread
    exact ⟨name, hname, hread⟩
  · exact absurd hread (by simp)

/-! ## Looking a locale up -/

/-- **A file is found under a name** if the name leads to a plain file. -/
theorem file?_eq_some_iff :
    b.file? v name = .ok (some p)
      ↔ p = b.directory.appendText name ∧ (v.file? p).isSome := by
  unfold file?
  dsimp only
  rw [map_eq_ok]
  constructor
  · rintro ⟨answer, hanswer, hp⟩
    cases answer with
    | false => exact absurd hp (by simp)
    | true =>
      obtain rfl := Option.some.inj hp
      rw [← Volume.shows_isFile]
      exact ⟨rfl, Volume.isKind_eq_ok_true_iff.1 hanswer⟩
  · rintro ⟨rfl, hp⟩
    rw [← Volume.shows_isFile] at hp
    exact ⟨true, Volume.isKind_eq_ok_true_iff.2 hp, rfl⟩

/-- **What a bundle finds for a locale** is the file of its full name, if it has a
region, or else that of its language. -/
theorem find?_eq_some {l : Locale} (h : b.find? v l = .ok (some p)) :
    (l.region ≠ [] ∧ b.file? v (b.fullName l) = .ok (some p))
      ∨ ((l.region ≠ [] → b.file? v (b.fullName l) = .ok none)
        ∧ b.file? v (b.languageName l) = .ok (some p)) := by
  unfold find? at h
  split at h
  · rename_i hregion
    obtain ⟨first?, hfirst, h⟩ := bind_eq_ok.1 h
    cases first? with
    | none => exact Or.inr ⟨fun _ => hfirst, h⟩
    | some q =>
      obtain rfl : q = p := by simpa [pure, Except.pure] using h
      exact Or.inl ⟨hregion, hfirst⟩
  · rename_i hregion
    exact Or.inr ⟨fun hne => absurd hne hregion, h⟩

theorem file?_of_find? {l : Locale} (h : b.find? v l = .ok (some p)) :
    b.file? v (b.fullName l) = .ok (some p)
      ∨ b.file? v (b.languageName l) = .ok (some p) :=
  (find?_eq_some h).imp And.right And.right

theorem file?_of_shows (hn : Path.IsEntryName name)
    (hfile : v.shows FileTree.isFile (b.directory.child name) = true) :
    b.file? v name = .ok (some (b.directory.child name)) := by
  rw [Volume.shows_isFile] at hfile
  exact file?_eq_some_iff.2 ⟨(hn.appendText_eq b.directory).symm, hfile⟩

/-- **The dictionary of a key is found for the locale of the key**, if the key is
spelled as the lower-case text of the locale and that has a region or no
script. -/
theorem find?_nameOf (hwords : key.AreWords (· == '_'))
    (hspelled : (Locale.ofText key).toText.lower = key)
    (hregion : (Locale.ofText key).region ≠ []
      ∨ (Locale.ofText key).script = [])
    (hn : Path.IsEntryName (b.nameOf key))
    (hfile : v.shows FileTree.isFile (b.directory.child (b.nameOf key)) = true) :
    b.find? v (Locale.ofText key)
      = .ok (some (b.directory.child (b.nameOf key))) := by
  have hfound := file?_of_shows hn hfile
  have hfull : b.fullName (Locale.ofText key) = b.nameOf key := by
    unfold fullName
    rw [hspelled]
    rfl
  unfold find?
  by_cases hr : (Locale.ofText key).region = []
  · obtain ⟨hl, hs⟩ :=
      Locale.isLegible_ofText (Locale.areWords_isSeparator hwords)
    have hlang : b.languageName (Locale.ofText key) = b.nameOf key := by
      unfold languageName
      rw [← Locale.lower_toText_of_language hl hs
        (hregion.resolve_left fun h => h hr) hr, hspelled]
      rfl
    rw [if_neg (not_not.2 hr), hlang, hfound]
  · rw [if_pos hr, hfull, hfound]
    rfl

end Bundle

end Lexicon
