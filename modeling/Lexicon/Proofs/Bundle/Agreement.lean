import Lexicon.Proofs.Bundle.Lookup
import Lexicon.Proofs.Text.Images
import Lexicon.Proofs.Volume.Agreement

/-!
# Bundles in the same directory

A bundle looks at nothing but its own directory, as long as its names hold no
slash (`Bundle.IsFlat`). So on two volumes on which that is the same directory it
tells the same locales (`Bundle.getD_locales_congr`) and finds the same
dictionaries (`Bundle.find?_congr`, `Bundle.shownKind_of_find?`).
-/

namespace Lexicon

namespace Volume.SameDirectory

variable {v w : Volume} {p : Path} {name : Text}

theorem shownKind_appendText (h : v.SameDirectory w p)
    (hn : Path.slash ∉ name) :
    w.shownKind (p.appendText name) = v.shownKind (p.appendText name) := by
  rw [Path.appendText_of_slash_not_mem p hn]
  split
  · exact h.self
  · exact h.entries name

end Volume.SameDirectory

namespace Bundle

variable {b : Bundle} {v w : Volume} {key name : Text} {l : Locale} {p : Path}

/-- **A bundle whose names lead into its own directory**: neither its ending nor
any locale that it declares or that a file is named for holds a slash. -/
structure IsFlat (b : Bundle) (v : Volume) : Prop where
  /-- Its ending holds no slash. -/
  ending : Path.slash ∉ b.ending
  /-- Nor does a locale that it declares. -/
  declared : ∀ keys, b.declared? = some keys → ∀ key ∈ keys, Path.slash ∉ key
  /-- Nor does a key in its directory. -/
  named : ∀ name ∈ v.namesIn b.directory, ∀ key,
    b.keyOf? name = some key → Path.slash ∉ key

/-- **No locale of a flat bundle holds a slash.** -/
theorem IsFlat.slash_not_mem (h : b.IsFlat v)
    (hkey : key ∈ (b.locales v).value.toOption.getD []) : Path.slash ∉ key := by
  cases hd : b.declared? with
  | some keys =>
    refine h.declared keys hd key ?_
    unfold locales at hkey
    rwa [hd] at hkey
  | none =>
    obtain ⟨name, hname, hread⟩ := exists_name_of_mem_locales hd hkey
    exact h.named name hname key hread

theorem IsFlat.of_sameDirectory (h : b.IsFlat v)
    (hsame : v.SameDirectory w b.directory) : b.IsFlat w where
  ending := h.ending
  declared := h.declared
  named name hname := h.named name (by rwa [← hsame.names])

/-! ## Names without a slash -/

/-- The sign between components is below the letters. -/
theorem slash_lt : Path.slash.val < 0x41 := by
  decide

theorem slash_not_mem_nameOf (hb : Path.slash ∉ b.ending)
    (hkey : Path.slash ∉ key) : Path.slash ∉ b.nameOf key := by
  unfold nameOf
  rw [List.mem_append, List.mem_append, not_or, not_or]
  exact ⟨⟨by decide, hkey⟩, hb⟩

/-- **The names under which a locale is looked up** hold no slash, if the text
that it was read from holds none. -/
theorem slash_not_mem_names (hb : Path.slash ∉ b.ending)
    (hkey : Path.slash ∉ key) :
    Path.slash ∉ b.fullName (Locale.ofText key)
      ∧ Path.slash ∉ b.languageName (Locale.ofText key) := by
  constructor
  · refine slash_not_mem_nameOf hb fun h => hkey ?_
    exact Locale.mem_of_mem_toText_ofText slash_lt
      (Text.mem_of_mem_lower slash_lt h)
  · refine slash_not_mem_nameOf hb fun h => hkey ?_
    exact Locale.mem_of_mem_field_ofText slash_lt List.mem_cons_self h

/-! ## The same directory -/

theorem keysOf_congr {paths : List Path}
    (h : ∀ p ∈ paths, w.isFile p = v.isFile p) :
    b.keysOf w paths = b.keysOf v paths := by
  induction paths with
  | nil => rfl
  | cons p rest ih =>
    unfold keysOf
    rw [h p List.mem_cons_self,
      ih fun q hq => h q (List.mem_cons_of_mem _ hq)]

/-- **The same locales** are told by the same directory. -/
theorem getD_locales_congr (h : v.SameDirectory w b.directory) :
    (b.locales w).value.toOption.getD []
      = (b.locales v).value.toOption.getD [] := by
  cases hd : b.declared? with
  | some keys =>
    unfold locales
    rw [hd]
  | none =>
    rw [getD_locales hd, getD_locales hd, h.names, keysOf_congr (w := w)]
    intro p hp
    obtain ⟨name, -, rfl⟩ := List.mem_map.1 hp
    exact Volume.isFile_congr (h.entries name)

theorem file?_congr (h : v.SameDirectory w b.directory)
    (hn : Path.slash ∉ name) : b.file? w name = b.file? v name := by
  unfold file?
  dsimp only
  rw [Volume.isFile_congr (h.shownKind_appendText hn)]

/-- **The same dictionary** is found for a locale. -/
theorem find?_congr (h : v.SameDirectory w b.directory)
    (hb : Path.slash ∉ b.ending) (hkey : Path.slash ∉ key) :
    b.find? w (Locale.ofText key) = b.find? v (Locale.ofText key) := by
  obtain ⟨hfull, hlanguage⟩ := slash_not_mem_names hb hkey
  unfold find?
  rw [file?_congr h hfull, file?_congr h hlanguage]

/-- It shows the same on both volumes. -/
theorem shownKind_of_find? (h : v.SameDirectory w b.directory)
    (hb : Path.slash ∉ b.ending) (hkey : Path.slash ∉ key)
    (hp : b.find? v (Locale.ofText key) = .ok (some p)) :
    w.shownKind p = v.shownKind p := by
  obtain ⟨hfull, hlanguage⟩ := slash_not_mem_names hb hkey
  obtain hp | hp := file?_of_find? hp
  · rw [(file?_eq_some_iff.1 hp).1]
    exact h.shownKind_appendText hfull
  · rw [(file?_eq_some_iff.1 hp).1]
    exact h.shownKind_appendText hlanguage

/-- **A bundle without a directory finds nothing**, if its names lead into
one. -/
theorem find?_ne_of_not_located {e : FileError}
    (hl : v.tree.locate b.directory = .error e) (hb : Path.slash ∉ b.ending)
    (hkey : Path.slash ∉ key) :
    b.find? v (Locale.ofText key) ≠ .ok (some p) := by
  obtain ⟨hfull, hlanguage⟩ := slash_not_mem_names hb hkey
  have hnone : ∀ {name : Text}, Path.slash ∉ name →
      b.file? v name ≠ .ok (some p) := by
    intro name hn hp
    obtain ⟨rfl, hfile⟩ := file?_eq_some_iff.1 hp
    obtain ⟨f, hf⟩ := Option.isSome_iff_exists.1 hfile
    obtain ⟨-, -, place, hplace, -⟩ := Volume.file?_eq_some_iff_kind?.1 hf
    rw [Path.appendText_of_slash_not_mem _ hn] at hplace
    split at hplace
    · rw [hl] at hplace
      exact absurd hplace (by simp)
    · obtain ⟨above, ha, -⟩ := FileTree.eq_of_locate_child hplace
      rw [hl] at ha
      exact absurd ha (by simp)
  intro hp
  obtain hp | hp := file?_of_find? hp
  · exact hnone hfull hp
  · exact hnone hlanguage hp

end Bundle

end Lexicon
