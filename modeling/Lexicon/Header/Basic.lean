import Lexicon.Text.Numeral
import Lexicon.Text.Utf8

/-!
# Headers of dictionary files

A dictionary file opens with a header: four bytes that tell its kind, two of
format version, two of flags, four of the size of the whole header, and then
attributes up to that size, each key and each value closed by a zero byte. All
numbers are written highest byte first. What follows is the dictionary itself,
which is never looked into.

The attributes are an ordered map. Setting a key that is there already changes
its value and leaves it in its place, so the keys stay distinct
(`Attributes.nodup`).
-/

namespace Lexicon

/-- **The attributes of a header**: distinct keys with their values, in
order. -/
structure Attributes where
  /-- The keys and their values, in order. -/
  entries : List (Text × Text)
  /-- No key stands twice. -/
  nodup : (entries.map (·.1)).Nodup
  deriving DecidableEq

namespace Attributes

/-- The entries with a key set: in its place, or behind all others. -/
def setEntry (key value : Text) : List (Text × Text) → List (Text × Text)
  | [] => [(key, value)]
  | (k, v) :: rest =>
    if k = key then (k, value) :: rest else (k, v) :: setEntry key value rest

theorem mem_keys_setEntry {key value k : Text} {entries : List (Text × Text)} :
    k ∈ (setEntry key value entries).map (·.1)
      ↔ k = key ∨ k ∈ entries.map (·.1) := by
  induction entries with
  | nil => simp [setEntry]
  | cons e rest ih =>
    unfold setEntry
    split
    · rename_i h
      simp [h]
    · simp only [List.map_cons, List.mem_cons, ih]
      exact or_left_comm

theorem nodup_setEntry {key value : Text} {entries : List (Text × Text)}
    (h : (entries.map (·.1)).Nodup) :
    ((setEntry key value entries).map (·.1)).Nodup := by
  induction entries with
  | nil => simp [setEntry]
  | cons e rest ih =>
    simp only [List.map_cons, List.nodup_cons] at h
    unfold setEntry
    split
    · simpa using h
    · rename_i hk
      simp only [List.map_cons, List.nodup_cons, mem_keys_setEntry]
      exact ⟨fun hm => hm.elim hk h.1, ih h.2⟩

/-- No attributes. -/
def empty : Attributes := ⟨[], by simp⟩

/-- **The attributes with a key set.** -/
def set (a : Attributes) (key value : Text) : Attributes :=
  ⟨setEntry key value a.entries, nodup_setEntry a.nodup⟩

/-- The attributes that pairs give: a repeated key keeps its first place and
takes its last value. -/
def ofList (pairs : List (Text × Text)) : Attributes :=
  pairs.foldl (fun a p => a.set p.1 p.2) empty

/-- The value of a key. -/
def get? (a : Attributes) (key : Text) : Option Text :=
  a.entries.lookup key

/-- Setting a key among entries changes what is found under it alone. -/
theorem lookup_setEntry (key value k : Text) (entries : List (Text × Text)) :
    (setEntry key value entries).lookup k
      = if k = key then some value else entries.lookup k := by
  induction entries with
  | nil =>
    unfold setEntry
    by_cases h : k = key
    · simp [h]
    · simp [h, List.lookup_cons, beq_false_of_ne h]
  | cons e rest ih =>
    obtain ⟨k', v⟩ := e
    unfold setEntry
    split
    · rename_i h
      subst h
      by_cases h : k = k'
      · simp [h]
      · simp [List.lookup_cons, h, beq_false_of_ne h]
    · rename_i hk
      by_cases h : k = k'
      · subst h
        simp [hk]
      · rw [List.lookup_cons, beq_false_of_ne h, List.lookup_cons,
          beq_false_of_ne h]
        exact ih

/-- **Setting a key changes what is read under it and nothing else.** -/
@[simp] theorem get?_set (a : Attributes) (key value k : Text) :
    (a.set key value).get? k = if k = key then some value else a.get? k :=
  lookup_setEntry key value k a.entries

/-- **A key has a value** exactly if the two are an entry. -/
theorem get?_eq_some_iff {a : Attributes} {key value : Text} :
    a.get? key = some value ↔ (key, value) ∈ a.entries := by
  unfold get?
  rw [List.lookup_eq_some_iff]
  constructor
  · rintro ⟨front, back, hentries, -⟩
    rw [hentries]
    exact List.mem_append_right _ List.mem_cons_self
  · intro hmem
    obtain ⟨front, back, hentries⟩ := List.append_of_mem hmem
    refine ⟨front, back, hentries, fun e he => bne_iff_ne.2 ?_⟩
    -- the key stands in one place only
    have hnodup := a.nodup
    rw [hentries, List.map_append, List.nodup_append] at hnodup
    exact (hnodup.2.2 _ (List.mem_map_of_mem he) _ List.mem_cons_self).symm

/-- What is so of an entry with a key is so of the value of the key. -/
theorem exists_entry_iff (a : Attributes) {key : Text} {P : Text → Prop} :
    (∃ e ∈ a.entries, e.1 = key ∧ P e.2)
      ↔ ∃ value, a.get? key = some value ∧ P value := by
  constructor
  · rintro ⟨⟨_, value⟩, he, rfl, hp⟩
    exact ⟨value, get?_eq_some_iff.2 he, hp⟩
  · rintro ⟨value, hv, hp⟩
    exact ⟨(key, value), get?_eq_some_iff.1 hv, rfl, hp⟩

theorem forall_entry_iff (a : Attributes) {key : Text} {P : Text → Prop} :
    (∀ e ∈ a.entries, e.1 = key → P e.2)
      ↔ ∀ value, a.get? key = some value → P value := by
  constructor
  · exact fun h value hv => h (key, value) (get?_eq_some_iff.1 hv) rfl
  · rintro h ⟨_, value⟩ he rfl
    exact h value (get?_eq_some_iff.2 he)

end Attributes

/-- **A header.** -/
structure Header where
  /-- The version of the format. -/
  formatVersion : Nat
  /-- The flags. -/
  flags : Nat
  /-- The attributes. -/
  attributes : Attributes
  deriving DecidableEq

namespace Header

/-- The number in the first four bytes. -/
def magic : Nat := 0x9BC13AFE

/-- The size of a header without attributes. -/
def fixedSize : Nat := 12

/-- The least version of the format that can be read. -/
def minimumFormatVersion : Nat := 2

/-- The version of the format that is written unless another is asked for. -/
def defaultFormatVersion : Nat := 202

/-- The key of the content version. -/
def versionKey : Text := ['v', 'e', 'r', 's', 'i', 'o', 'n']

/-- The key of the locale of the content. -/
def localeKey : Text := ['l', 'o', 'c', 'a', 'l', 'e']

/-- The content version of a dictionary whose header gives none. -/
def noVersion : Int := -1

/-- The content version that attributes give: the natural number that their
version spells, or `noVersion`. -/
def versionOf (a : Attributes) : Int :=
  match (a.get? versionKey).bind Numeral.int? with
  | some n => if 0 ≤ n then n else noVersion
  | none => noVersion

/-- **The content version.** -/
def version (h : Header) : Int :=
  versionOf h.attributes

end Header

end Lexicon
