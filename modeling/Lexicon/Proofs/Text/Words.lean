import Lexicon.Proofs.Text.Parts
import Lexicon.Text.Blank
import Lexicon.Text.Case
import Lexicon.Text.Letter

/-!
# Words of ASCII letters and digits

On ASCII the case mappings are what one expects: they go code point by code
point and never look into a table. Two texts are *the same but for case* if
their small letters are the same. Each mapping changes nothing but the case
(`Text.sameButCase_lower` and its neighbours), and what it gives does not
depend on the case that it finds (`Text.SameButCase.lower_eq` and its
neighbours), so one mapping after another is the last one alone.
-/

namespace Lexicon

namespace CodePoint

/-- Whether a code point is an ASCII letter or digit. -/
def isAlphanumeric (c : CodePoint) : Bool :=
  c.isAsciiLetter || (0x30 ≤ c.val && c.val ≤ 0x39)

/-- The small letter of an ASCII letter. Everything else stays. -/
def small (c : CodePoint) : CodePoint :=
  if 0x41 ≤ c.val ∧ c.val ≤ 0x5A then c + 0x20 else c

/-- The capital letter of an ASCII letter. Everything else stays. -/
def capital (c : CodePoint) : CodePoint :=
  if 0x61 ≤ c.val ∧ c.val ≤ 0x7A then c - 0x20 else c

/-- What holds of the 128 code points of ASCII can be checked one by one. -/
theorem forall_ascii {P : CodePoint → Prop}
    (h : ∀ n : Fin 0x80, P ⟨n.val, by omega⟩) {c : CodePoint}
    (hc : c.val < 0x80) : P c :=
  h ⟨c.val, hc⟩

theorem val_lt_of_isAlphanumeric {c : CodePoint}
    (h : c.isAlphanumeric = true) : c.val < 0x80 := by
  unfold isAlphanumeric isAsciiLetter at h
  simp only [Bool.or_eq_true, Bool.and_eq_true, decide_eq_true_eq] at h
  omega

/-- What can be seen of an ASCII letter without regard to its case can be seen
of its small letter. -/
theorem eq_small {c : CodePoint} (hc : c.val < 0x80) :
    c.capital = c.small.capital ∧ c.isAlphanumeric = c.small.isAlphanumeric
      ∧ c.isCased = c.small.isCased ∧ c.isLetter = c.small.isLetter :=
  forall_ascii (P := fun c => c.capital = c.small.capital
      ∧ c.isAlphanumeric = c.small.isAlphanumeric
      ∧ c.isCased = c.small.isCased ∧ c.isLetter = c.small.isLetter)
    (by decide +kernel) hc

/-- A code point is ASCII exactly if its small letter is. -/
@[simp] theorem val_small_lt_iff {c : CodePoint} :
    c.small.val < 0x80 ↔ c.val < 0x80 := by
  unfold small
  split
  · rename_i h
    have hval : (c + 0x20).val = c.val + 0x20 := by
      rw [Fin.val_add]
      exact Nat.mod_eq_of_lt (by show c.val + 0x20 < 0x110000; omega)
    omega
  · rfl

theorem small_small_and_small_capital {c : CodePoint} (hc : c.val < 0x80) :
    c.small.small = c.small ∧ c.capital.small = c.small :=
  forall_ascii (P := fun c => c.small.small = c.small
    ∧ c.capital.small = c.small) (by decide +kernel) hc

end CodePoint

namespace Text

variable {s t : Text}

/-- A text of ASCII code points. -/
def IsAscii (t : Text) : Prop :=
  ∀ c ∈ t, c.val < 0x80

/-- **Two texts with the same small letters**, whatever the case they are
written in. -/
def SameButCase (s t : Text) : Prop :=
  s.map CodePoint.small = t.map CodePoint.small

/-! ## The case mappings on ASCII -/

/-- Lower case writes every ASCII letter small. -/
theorem lower_eq_map (h : t.IsAscii) : t.lower = t.map CodePoint.small := by
  suffices hfrom : ∀ before, lowerFrom before t = t.map CodePoint.small from
    hfrom []
  induction t with
  | nil => exact fun _ => rfl
  | cons c rest ih =>
    intro before
    obtain ⟨hc, hrest⟩ := List.forall_mem_cons.1 h
    have hsigma : c ≠ CodePoint.capitalSigma := by
      rintro rfl
      exact absurd hc (by decide)
    rw [lowerFrom, ih hrest, lowerIn, if_neg hsigma, CodePoint.lower, if_pos hc]
    rfl

theorem upper_eq_map (h : t.IsAscii) : t.upper = t.map CodePoint.capital := by
  unfold upper
  rw [List.map_eq_flatMap]
  refine List.flatMap_congr fun c hc => ?_
  rw [CodePoint.upper, if_pos (h c hc)]
  rfl

/-- The title case of ASCII: a capital at the start of every run of letters,
and small letters behind it. -/
def titled (inside : Bool) : Text → Text
  | [] => []
  | c :: rest =>
    (if inside then c.small else c.capital) :: titled c.isCased rest

/-- Title case is so on ASCII. -/
theorem title_eq_titled (h : t.IsAscii) : t.title = titled false t := by
  suffices hfrom : ∀ before,
      titleFrom before t = titled (before.head?.any CodePoint.isCased) t from
    hfrom []
  induction t with
  | nil => exact fun _ => rfl
  | cons c rest ih =>
    intro before
    obtain ⟨hc, hrest⟩ := List.forall_mem_cons.1 h
    have hsigma : c ≠ CodePoint.capitalSigma := by
      rintro rfl
      exact absurd hc (by decide)
    rw [titleFrom, ih hrest, titled, lowerIn, if_neg hsigma, CodePoint.lower,
      if_pos hc, CodePoint.title, if_pos hc, CodePoint.upper, if_pos hc]
    cases before.head?.any CodePoint.isCased <;> rfl

/-- Title case sees the small letters alone. -/
theorem titled_map_small (h : t.IsAscii) (inside : Bool) :
    titled inside (t.map CodePoint.small) = titled inside t := by
  induction t generalizing inside with
  | nil => rfl
  | cons c rest ih =>
    obtain ⟨hc, hrest⟩ := List.forall_mem_cons.1 h
    obtain ⟨hcapital, -, hcased, -⟩ := CodePoint.eq_small hc
    rw [List.map_cons, titled, titled, ih hrest,
      (CodePoint.small_small_and_small_capital hc).1, ← hcapital, ← hcased]

/-! ## The same but for case -/

/-- Title case changes nothing but the case. -/
theorem map_small_titled (h : t.IsAscii) (inside : Bool) :
    (titled inside t).map CodePoint.small = t.map CodePoint.small := by
  induction t generalizing inside with
  | nil => rfl
  | cons c rest ih =>
    obtain ⟨hc, hrest⟩ := List.forall_mem_cons.1 h
    obtain ⟨hsmall, hcapital⟩ := CodePoint.small_small_and_small_capital hc
    rw [titled, List.map_cons, List.map_cons, ih hrest]
    cases inside
    · rw [if_neg Bool.false_ne_true, hcapital]
    · rw [if_pos rfl, hsmall]

theorem sameButCase_lower (h : t.IsAscii) : SameButCase t.lower t := by
  unfold SameButCase
  rw [lower_eq_map h, List.map_map]
  exact List.map_congr_left fun c hc =>
    (CodePoint.small_small_and_small_capital (h c hc)).1

theorem sameButCase_upper (h : t.IsAscii) : SameButCase t.upper t := by
  unfold SameButCase
  rw [upper_eq_map h, List.map_map]
  exact List.map_congr_left fun c hc =>
    (CodePoint.small_small_and_small_capital (h c hc)).2

theorem sameButCase_title (h : t.IsAscii) : SameButCase t.title t := by
  unfold SameButCase
  rw [title_eq_titled h, map_small_titled h]

namespace SameButCase

theorem isAscii (h : SameButCase s t) (ht : t.IsAscii) : s.IsAscii := by
  intro c hc
  have hmem : c.small ∈ t.map CodePoint.small := h ▸ List.mem_map_of_mem hc
  obtain ⟨d, hd, heq⟩ := List.mem_map.1 hmem
  rw [← CodePoint.val_small_lt_iff, ← heq, CodePoint.val_small_lt_iff]
  exact ht d hd

theorem lower_eq (h : SameButCase s t) (ht : t.IsAscii) :
    s.lower = t.lower := by
  rw [lower_eq_map ht, lower_eq_map (h.isAscii ht)]
  exact h

theorem upper_eq (h : SameButCase s t) (ht : t.IsAscii) :
    s.upper = t.upper := by
  have hmap : ∀ {t : Text}, t.IsAscii →
      t.upper = (t.map CodePoint.small).map CodePoint.capital := by
    intro t ht
    rw [upper_eq_map ht, List.map_map]
    exact List.map_congr_left fun c hc => (CodePoint.eq_small (ht c hc)).1
  rw [hmap ht, hmap (h.isAscii ht), h]

theorem title_eq (h : SameButCase s t) (ht : t.IsAscii) :
    s.title = t.title := by
  have hs := h.isAscii ht
  rw [title_eq_titled ht, title_eq_titled hs, ← titled_map_small ht,
    ← titled_map_small hs, h]

theorem length_eq (h : SameButCase s t) : s.length = t.length := by
  rw [← List.length_map CodePoint.small, h, List.length_map]

/-- Two texts that are the same but for case are made of letters and digits, or
of letters alone, together. -/
theorem all_eq (h : SameButCase s t) (ht : t.IsAscii)
    {P : CodePoint → Bool}
    (hP : ∀ c : CodePoint, c.val < 0x80 → P c = P c.small) :
    s.all P = t.all P := by
  have hmap : ∀ {t : Text}, t.IsAscii →
      t.all P = (t.map CodePoint.small).all P := by
    intro t ht
    rw [List.all_map, Bool.eq_iff_iff, List.all_eq_true, List.all_eq_true]
    exact forall₂_congr fun c hc => by rw [hP c (ht c hc)]; rfl
  rw [hmap ht, hmap (h.isAscii ht), h]

end SameButCase

/-! ## Words -/

/-- **A word**: ASCII letters and digits, at least one. -/
structure IsWord (t : Text) : Prop where
  /-- It is not empty. -/
  ne_nil : t ≠ []
  /-- It holds nothing but letters and digits. -/
  alphanumeric : ∀ c ∈ t, c.isAlphanumeric = true

/-- **A text of words**, one separator between neighbours and none at an
end. -/
def AreWords (isSeparator : CodePoint → Bool) (t : Text) : Prop :=
  ∀ part ∈ t.split isSeparator, part.IsWord

instance (t : Text) : Decidable t.IsWord :=
  decidable_of_iff (t ≠ [] ∧ t.all CodePoint.isAlphanumeric = true)
    ⟨fun ⟨h₁, h₂⟩ => ⟨h₁, List.all_eq_true.1 h₂⟩,
      fun h => ⟨h.1, List.all_eq_true.2 h.2⟩⟩

instance (isSeparator : CodePoint → Bool) (t : Text) :
    Decidable (t.AreWords isSeparator) :=
  inferInstanceAs (Decidable (∀ part ∈ t.split isSeparator, part.IsWord))

namespace IsWord

theorem isAscii (h : t.IsWord) : t.IsAscii :=
  fun c hc => CodePoint.val_lt_of_isAlphanumeric (h.alphanumeric c hc)

theorem of_sameButCase (ht : t.IsWord) (h : SameButCase s t) : s.IsWord := by
  constructor
  · rintro rfl
    exact ht.ne_nil (List.length_eq_zero_iff.1 h.length_eq.symm)
  · rw [← List.all_eq_true, h.all_eq ht.isAscii
      fun c hc => (CodePoint.eq_small hc).2.1, List.all_eq_true]
    exact ht.alphanumeric

end IsWord

end Text

end Lexicon
