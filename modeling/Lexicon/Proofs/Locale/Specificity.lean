import Lexicon.Locale
import Mathlib.Data.Fintype.Basic

/-!
# What less specific means

Script, region and variant of a locale may be left open. To leave some of them
open is an operation on locales (`Locale.blank`), and a locale is less specific
than another one exactly if it comes from it by leaving open what the other one
says, at least one field of it (`isLessSpecificThan_iff`). Blanking twice is
blanking once, and blanking something that was said gives another locale, so
the relation is a strict order (`isLessSpecificThan_strictOrder`).
-/

namespace Lexicon.Locale

/-- A field of a locale that may be left open. -/
inductive OpenField where
  /-- The script. -/
  | script
  /-- The region. -/
  | region
  /-- The variant. -/
  | variant
  deriving DecidableEq

namespace OpenField

instance : Fintype OpenField where
  elems := {script, region, variant}
  complete f := by cases f <;> decide

end OpenField

variable {a b c : Locale} {f : OpenField} {s u : Finset OpenField}

/-- What a locale says in a field. -/
def get (l : Locale) : OpenField → Text
  | .script => l.script
  | .region => l.region
  | .variant => l.variant

/-- **A locale with some fields left open.** -/
def blank (s : Finset OpenField) (l : Locale) : Locale where
  language := l.language
  script := if .script ∈ s then [] else l.script
  region := if .region ∈ s then [] else l.region
  variant := if .variant ∈ s then [] else l.variant

/-- Locales of one language that say the same in every field are the same. -/
theorem eq_of_get_eq (hl : a.language = b.language)
    (h : ∀ f, a.get f = b.get f) : a = b := by
  obtain ⟨language, script, region, variant⟩ := a
  rw [mk.injEq]
  exact ⟨hl, h .script, h .region, h .variant⟩

@[simp] theorem language_blank (s : Finset OpenField) (l : Locale) :
    (l.blank s).language = l.language := rfl

@[simp] theorem get_blank (s : Finset OpenField) (l : Locale) (f : OpenField) :
    (l.blank s).get f = if f ∈ s then [] else l.get f := by
  cases f <;> rfl

@[simp] theorem blank_empty (l : Locale) : l.blank ∅ = l :=
  eq_of_get_eq rfl fun f => get_blank ∅ l f

@[simp] theorem blank_blank (s u : Finset OpenField) (l : Locale) :
    (l.blank s).blank u = l.blank (s ∪ u) := by
  refine eq_of_get_eq rfl fun f => ?_
  rw [get_blank, get_blank, get_blank]
  by_cases hs : f ∈ s <;> by_cases hu : f ∈ u <;> simp [hs, hu]

/-- **Fields in which a locale says something**, at least one. -/
structure Says (l : Locale) (s : Finset OpenField) : Prop where
  /-- There is such a field. -/
  nonempty : s.Nonempty
  /-- The locale says something in each. -/
  get_ne_nil : ∀ f ∈ s, l.get f ≠ []

theorem Says.blank_ne (h : a.Says s) : a.blank s ≠ a := by
  obtain ⟨f, hf⟩ := h.nonempty
  intro he
  have hget := get_blank s a f
  rw [he, if_pos hf] at hget
  exact h.get_ne_nil f hf hget

/-- A locale is less specific exactly if it is another one of the language that
says nothing else in any field. -/
theorem isLessSpecificThan_iff_get :
    a.isLessSpecificThan b = true
      ↔ a ≠ b ∧ a.language = b.language
        ∧ ∀ f, a.get f = [] ∨ a.get f = b.get f := by
  have hfields : (∀ f, a.get f = [] ∨ a.get f = b.get f)
      ↔ (a.script = [] ∨ a.script = b.script)
        ∧ (a.region = [] ∨ a.region = b.region)
        ∧ (a.variant = [] ∨ a.variant = b.variant) :=
    ⟨fun h => ⟨h .script, h .region, h .variant⟩,
      fun ⟨hs, hr, hv⟩ f => by cases f <;> assumption⟩
  rw [hfields]
  unfold isLessSpecificThan agrees
  simp [and_assoc]

/-- **A locale is less specific than another one exactly if it is that one with
something left open that the other one says.** -/
theorem isLessSpecificThan_iff :
    a.isLessSpecificThan b = true ↔ ∃ s, b.Says s ∧ a = b.blank s := by
  rw [isLessSpecificThan_iff_get]
  constructor
  · rintro ⟨hne, hl, hget⟩
    -- the fields left open are those in which the two differ
    let s := Finset.univ.filter fun f => a.get f ≠ b.get f
    have hblank : a = b.blank s := by
      refine eq_of_get_eq hl fun f => ?_
      rw [get_blank]
      by_cases hf : a.get f = b.get f
      · rw [if_neg (by simp [s, hf]), hf]
      · rw [if_pos (by simp [s, hf])]
        exact (hget f).resolve_right hf
    refine ⟨s, ⟨?_, fun f hf hnil => ?_⟩, hblank⟩
    · by_contra hs
      rw [Finset.not_nonempty_iff_eq_empty.1 hs, blank_empty] at hblank
      exact hne hblank
    · have hopen : a.get f ≠ b.get f := (Finset.mem_filter.1 hf).2
      rcases hget f with hf | hf
      · exact hopen (hf.trans hnil.symm)
      · exact hopen hf
  · rintro ⟨s, hs, rfl⟩
    refine ⟨hs.blank_ne, rfl, fun f => ?_⟩
    rw [get_blank]
    by_cases hf : f ∈ s
    · exact Or.inl (if_pos hf)
    · exact Or.inr (if_neg hf)

/-- What is less specific than a less specific locale is less specific: the
fields left open come together. -/
theorem isLessSpecificThan_trans (h : a.isLessSpecificThan b = true)
    (h' : b.isLessSpecificThan c = true) : a.isLessSpecificThan c = true := by
  obtain ⟨s, hs, rfl⟩ := isLessSpecificThan_iff.1 h
  obtain ⟨u, hu, rfl⟩ := isLessSpecificThan_iff.1 h'
  refine isLessSpecificThan_iff.2 ⟨u ∪ s, ⟨hu.nonempty.mono
    Finset.subset_union_left, fun f hf => ?_⟩, blank_blank u s c⟩
  obtain hf | hf := Finset.mem_union.1 hf
  · exact hu.get_ne_nil f hf
  · have hsays := hs.get_ne_nil f hf
    rw [get_blank] at hsays
    split at hsays
    · exact absurd rfl hsays
    · exact hsays

@[simp] theorem isLessSpecificThan_self (a : Locale) :
    a.isLessSpecificThan a = false := by
  refine Bool.eq_false_iff.2 fun h => ?_
  obtain ⟨s, hs, he⟩ := isLessSpecificThan_iff.1 h
  exact hs.blank_ne he.symm

/-- What a less specific locale says, the other one says. -/
theorem get_eq_of_isLessSpecificThan (h : a.isLessSpecificThan b = true)
    (hf : a.get f ≠ []) : a.get f = b.get f := by
  obtain ⟨-, -, hget⟩ := isLessSpecificThan_iff_get.1 h
  exact (hget f).resolve_left hf

/-- **To be less specific is a strict order** of a plain shape: one locale is
less specific than another one if and only if it is that one with some of
script, region and variant left open that the other one says, and at least one
of them. So no locale is less specific than itself, of two locales at most one
is less specific than the other, less specific than less specific is less
specific, and locales with different regions are not related. -/
theorem isLessSpecificThan_strictOrder :
    (∀ a b : Locale, a.isLessSpecificThan b = true
        ↔ ∃ s : Finset OpenField, s.Nonempty ∧ (∀ f ∈ s, b.get f ≠ [])
          ∧ a = b.blank s)
      ∧ (∀ a : Locale, a.isLessSpecificThan a = false)
      ∧ (∀ a b : Locale, a.isLessSpecificThan b = true →
        b.isLessSpecificThan a = false)
      ∧ (∀ a b c : Locale, a.isLessSpecificThan b = true →
        b.isLessSpecificThan c = true → a.isLessSpecificThan c = true)
      ∧ ∀ a b : Locale, a.region ≠ [] → b.region ≠ [] → a.region ≠ b.region →
        a.isLessSpecificThan b = false ∧ b.isLessSpecificThan a = false := by
  refine ⟨fun a b => ?_, isLessSpecificThan_self, fun a b h => ?_,
    fun a b c => isLessSpecificThan_trans, fun a b ha hb hne => ?_⟩
  · rw [isLessSpecificThan_iff]
    exact exists_congr fun s =>
      ⟨fun ⟨⟨hs, hget⟩, he⟩ => ⟨hs, hget, he⟩,
        fun ⟨hs, hget, he⟩ => ⟨⟨hs, hget⟩, he⟩⟩
  · refine Bool.eq_false_iff.2 fun h' => ?_
    have hself := isLessSpecificThan_trans h h'
    rw [isLessSpecificThan_self] at hself
    exact absurd hself (by simp)
  · constructor <;> refine Bool.eq_false_iff.2 fun h => ?_
    · exact hne (get_eq_of_isLessSpecificThan (f := .region) h ha)
    · exact hne (get_eq_of_isLessSpecificThan (f := .region) h hb).symm

/-- `zh` is less specific than `zh_Hant`, that is so than `zh_Hant_TW`, and the
latter is not related to `zh_Hant_HK`. -/
theorem isLessSpecificThan_strictOrder_sample :
    let zh : Locale := ⟨lit "zh", [], [], []⟩
    let hant : Locale := ⟨lit "zh", lit "Hant", [], []⟩
    let taiwan : Locale := ⟨lit "zh", lit "Hant", lit "TW", []⟩
    let hongKong : Locale := ⟨lit "zh", lit "Hant", lit "HK", []⟩
    zh.isLessSpecificThan hant = true ∧ hant.isLessSpecificThan taiwan = true
      ∧ taiwan.region ≠ hongKong.region
      ∧ zh.isLessSpecificThan taiwan = true
      ∧ taiwan.isLessSpecificThan zh = false
      ∧ taiwan.isLessSpecificThan hongKong = false := by
  intro zh hant taiwan hongKong
  obtain ⟨-, -, hasymm, htrans, hregion⟩ := isLessSpecificThan_strictOrder
  have hone : zh.isLessSpecificThan hant = true := by decide
  have htwo : hant.isLessSpecificThan taiwan = true := by decide
  have hne : taiwan.region ≠ hongKong.region := by decide
  have hboth := htrans zh hant taiwan hone htwo
  exact ⟨hone, htwo, hne, hboth, hasymm zh taiwan hboth,
    (hregion taiwan hongKong (by decide) (by decide) hne).1⟩

end Lexicon.Locale
