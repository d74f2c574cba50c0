import Mathlib.Data.List.Forall2
import Lexicon.Proofs.Locale.Reading

/-!
# Which texts name one locale

The text of a locale is a list of parts with underscores or hyphens between
them (`Locale.parts`). The first part is the language, the second may be a
script, and the next one is the region: of these only the case is settled, so
two texts name one locale exactly if these parts agree but for case and all
parts behind them, the variant, are the same (`NameAlike`). Since an absent
script moves the region forward, texts with different numbers of parts never
name one locale.

Writing down the locale of a text and reading it again changes nothing more, so
the written form is one that all texts of a locale share
(`ofText_eq_iff_nameAlike`).
-/

namespace Lexicon

namespace Text

variable {s t : Text}

/-- Parting at either of two signs is parting at one of them after the other
has been replaced by it. -/
theorem split_map_of_eq {isSeparator isSeparator' : CodePoint → Bool}
    {f : CodePoint → CodePoint}
    (hsep : ∀ c, isSeparator (f c) = isSeparator' c)
    (hkeep : ∀ c, isSeparator' c = false → f c = c) :
    split isSeparator (t.map f) = split isSeparator' t := by
  induction t with
  | nil => rfl
  | cons c rest ih =>
    rw [List.map_cons, split, split, hsep, ih]
    cases hc : isSeparator' c with
    | true => rfl
    | false => rw [hkeep c hc]

/-- **A mapping that settles the case** tells texts apart that are not the same
but for case, and no others. -/
theorem eq_iff_sameButCase {f : Text → Text}
    (hkeeps : ∀ {t : Text}, t.IsAscii → SameButCase (f t) t)
    (hsettles : ∀ {s t : Text}, SameButCase s t → t.IsAscii → f s = f t)
    (hs : s.IsAscii) (ht : t.IsAscii) : f s = f t ↔ SameButCase s t := by
  refine ⟨fun h => ?_, fun h => hsettles h ht⟩
  have hst := (hkeeps hs).symm
  rw [h] at hst
  exact hst.trans (hkeeps ht)

end Text

namespace Locale

variable {s s' : Text} {ps qs : List Text}

/-! ## Parts -/

/-- **The parts of the text of a locale**: what stands between underscores
after every hyphen has been replaced by one. -/
def parts (s : Text) : List Text :=
  Text.split (· == '_')
    (s.map fun c : CodePoint => if c = '-' then ('_' : CodePoint) else c)

/-- Hyphens part fields as underscores do. -/
theorem parts_eq_split (s : Text) : parts s = s.split isSeparator := by
  unfold parts
  refine Text.split_map_of_eq (fun c => ?_) fun c hc => if_neg ?_
  · unfold isSeparator
    by_cases hc : c = (('-' : Char) : CodePoint)
    · rw [if_pos hc, hc]
      decide
    · rw [if_neg hc, beq_false_of_ne hc, Bool.or_false]
  · rintro rfl
    exact absurd hc (by decide)

/-- How many parts are read as language, script and region, if there are so
many. -/
def fieldCount (ps : List Text) : Nat :=
  if ps[1]?.any isScript then 3 else 2

/-- The parts that are read as language, script and region. -/
def fieldParts (ps : List Text) : List Text :=
  ps.take (fieldCount ps)

/-- The other parts, which are the variant. -/
def variantParts (ps : List Text) : List Text :=
  ps.drop (fieldCount ps)

/-- **Two lists of parts that name one locale**: as many of them, those read as
language, script and region the same but for case, and the others the same. -/
structure NameAlike (ps qs : List Text) : Prop where
  /-- There are as many parts in both. -/
  length_eq : ps.length = qs.length
  /-- Language, script and region agree but for case. -/
  fields : List.Forall₂ Text.SameButCase (fieldParts ps) (fieldParts qs)
  /-- The variants are the same. -/
  variant : variantParts ps = variantParts qs

/-! ## Fields -/

/-- What case settles of a word: the word but for case. -/
theorem eq_iff_of_isWord {s t : Text} (hs : s.IsWord) (ht : t.IsWord) :
    (s.lower = t.lower ↔ s.SameButCase t)
      ∧ (s.upper = t.upper ↔ s.SameButCase t)
      ∧ (s.title = t.title ↔ s.SameButCase t) :=
  ⟨Text.eq_iff_sameButCase Text.sameButCase_lower
      Text.SameButCase.lower_eq hs.isAscii ht.isAscii,
    Text.eq_iff_sameButCase Text.sameButCase_upper
      Text.SameButCase.upper_eq hs.isAscii ht.isAscii,
    Text.eq_iff_sameButCase Text.sameButCase_title
      Text.SameButCase.title_eq hs.isAscii ht.isAscii⟩

/-- Words are joined alike only if they are the same. -/
theorem join_inj_of_isWord (hp : ∀ part ∈ ps, part.IsWord)
    (hq : ∀ part ∈ qs, part.IsWord) :
    Text.join '_' ps = Text.join '_' qs ↔ ps = qs := by
  have hempty : ∀ {ps : List Text}, (∀ part ∈ ps, part.IsWord) →
      Text.join '_' ps = [] → ps = [] := by
    intro ps hp hj
    by_contra hne
    have hsplit := split_join_of_isWord hne hp
    rw [hj] at hsplit
    exact (hp [] (hsplit ▸ List.mem_singleton.2 rfl)).ne_nil rfl
  refine ⟨fun h => ?_, congrArg _⟩
  by_cases hne : ps = []
  · subst hne
    exact (hempty hq h.symm).symm
  · have hne' : qs ≠ [] := by
      rintro rfl
      exact hne (hempty hp h)
    rw [← split_join_of_isWord hne hp, h, split_join_of_isWord hne' hq]

/-- **Parts behind the script** give one region and variant exactly if the
first agrees but for case and the others are the same. -/
theorem regionAndVariant_eq_iff (hp : ∀ part ∈ ps, part.IsWord)
    (hq : ∀ part ∈ qs, part.IsWord) :
    regionAndVariant ps = regionAndVariant qs
      ↔ ps.length = qs.length
        ∧ List.Forall₂ Text.SameButCase (ps.take 1) (qs.take 1)
        ∧ ps.drop 1 = qs.drop 1 := by
  have hregion : ∀ {t : Text}, t.IsWord → t.upper ≠ [] := fun ht =>
    (ht.of_sameButCase (Text.sameButCase_upper ht.isAscii)).ne_nil
  cases ps with
  | nil =>
    cases qs with
    | nil => simp
    | cons q qs =>
      have hne := (hregion (hq q List.mem_cons_self)).symm
      simp [regionAndVariant, hne]
  | cons p ps =>
    cases qs with
    | nil =>
      have hne := hregion (hp p List.mem_cons_self)
      simp [regionAndVariant, hne]
    | cons q qs =>
      obtain ⟨hp, hps⟩ := List.forall_mem_cons.1 hp
      obtain ⟨hq, hqs⟩ := List.forall_mem_cons.1 hq
      have hupper := (eq_iff_of_isWord hp hq).2.1
      have hjoin := join_inj_of_isWord hps hqs
      rw [regionAndVariant, regionAndVariant, Prod.mk.injEq, hupper, hjoin]
      constructor
      · rintro ⟨hpq, rfl⟩
        exact ⟨rfl, .cons hpq .nil, rfl⟩
      · rintro ⟨-, hpq, hrest⟩
        exact ⟨(List.forall₂_cons.1 hpq).1, hrest⟩

variable {l l' : Text} {rest rest' : List Text}

theorem ofParts_of_no_script (h : rest.head?.any isScript = false) :
    ofParts l rest
      = ⟨l.lower, [], (regionAndVariant rest).1, (regionAndVariant rest).2⟩ := by
  cases rest with
  | nil => rfl
  | cons part more => exact ofParts_of_not_isScript l h more

/-- The script of a locale is there exactly if the part behind the language
looks like one. -/
theorem script_ofParts_ne_nil_iff (h : ∀ part ∈ rest, part.IsWord) :
    (ofParts l rest).script ≠ [] ↔ rest.head?.any isScript = true := by
  cases hs : rest.head?.any isScript with
  | false =>
    rw [ofParts_of_no_script hs]
    simp
  | true =>
    cases rest with
    | nil => exact absurd hs Bool.false_ne_true
    | cons part more =>
      have hpart := h part List.mem_cons_self
      have htitle := hpart.of_sameButCase (Text.sameButCase_title hpart.isAscii)
      rw [ofParts_of_isScript l hs]
      exact iff_of_true htitle.ne_nil rfl

/-! ## Equal locales -/

@[simp] theorem fieldCount_cons (l : Text) (rest : List Text) :
    fieldCount (l :: rest) = if rest.head?.any isScript then 3 else 2 := by
  rw [fieldCount, List.getElem?_cons_succ, List.head?_eq_getElem?]

/-- **Parts with as many fields name alike** exactly if their languages agree
and what stands behind these. -/
theorem nameAlike_cons_iff {n : Nat} (h : fieldCount (l :: rest) = n + 1)
    (h' : fieldCount (l' :: rest') = n + 1) :
    NameAlike (l :: rest) (l' :: rest')
      ↔ l.SameButCase l' ∧ rest.length = rest'.length
        ∧ List.Forall₂ Text.SameButCase (rest.take n) (rest'.take n)
        ∧ rest.drop n = rest'.drop n := by
  have hfields : List.Forall₂ Text.SameButCase (fieldParts (l :: rest))
        (fieldParts (l' :: rest'))
      ↔ l.SameButCase l'
        ∧ List.Forall₂ Text.SameButCase (rest.take n) (rest'.take n) := by
    rw [fieldParts, fieldParts, h, h', List.take_succ_cons, List.take_succ_cons,
      List.forall₂_cons]
  have hvariant : variantParts (l :: rest) = variantParts (l' :: rest')
      ↔ rest.drop n = rest'.drop n := by
    rw [variantParts, variantParts, h, h', List.drop_succ_cons,
      List.drop_succ_cons]
  constructor
  · intro ha
    obtain ⟨hl, hrest⟩ := hfields.1 ha.fields
    exact ⟨hl, Nat.succ.inj ha.length_eq, hrest, hvariant.1 ha.variant⟩
  · rintro ⟨hl, hlength, hrest, hv⟩
    exact ⟨congrArg (· + 1) hlength, hfields.2 ⟨hl, hrest⟩, hvariant.2 hv⟩

/-- Of parts that name alike both have a script, or neither has. -/
theorem NameAlike.script_eq (h : NameAlike (l :: rest) (l' :: rest'))
    (hwords : ∀ part ∈ rest', part.IsWord) :
    rest.head?.any isScript = rest'.head?.any isScript := by
  have htwo : ∀ (l part : Text) (more : List Text), ∃ others,
      fieldParts (l :: part :: more) = l :: part :: others := by
    intro l part more
    unfold fieldParts fieldCount
    split <;> exact ⟨_, rfl⟩
  have hlength := h.length_eq
  cases rest with
  | nil =>
    cases rest' with
    | nil => rfl
    | cons part' more' => exact absurd hlength (by simp)
  | cons part more =>
    cases rest' with
    | nil => exact absurd hlength (by simp)
    | cons part' more' =>
      have hfields := h.fields
      obtain ⟨others, hothers⟩ := htwo l part more
      obtain ⟨others', hothers'⟩ := htwo l' part' more'
      rw [hothers, hothers', List.forall₂_cons, List.forall₂_cons] at hfields
      exact isScript_of_sameButCase hfields.2.1
        (hwords part' List.mem_cons_self).isAscii

/-- **Parts are read as one locale exactly if they name alike.** -/
theorem ofParts_eq_iff (h : ∀ part ∈ l :: rest, part.IsWord)
    (h' : ∀ part ∈ l' :: rest', part.IsWord) :
    ofParts l rest = ofParts l' rest'
      ↔ NameAlike (l :: rest) (l' :: rest') := by
  obtain ⟨hl, hrest⟩ := List.forall_mem_cons.1 h
  obtain ⟨hl', hrest'⟩ := List.forall_mem_cons.1 h'
  have hlang := (eq_iff_of_isWord hl hl').1
  by_cases hsame : rest.head?.any isScript = rest'.head?.any isScript
  · cases hs : rest'.head?.any isScript with
    | false =>
      rw [hs] at hsame
      have hcount := fieldCount_cons l rest
      have hcount' := fieldCount_cons l' rest'
      rw [hsame, if_neg Bool.false_ne_true] at hcount
      rw [hs, if_neg Bool.false_ne_true] at hcount'
      rw [ofParts_of_no_script hsame, ofParts_of_no_script hs, mk.injEq, hlang,
        and_iff_right rfl, ← Prod.ext_iff, regionAndVariant_eq_iff hrest hrest',
        nameAlike_cons_iff hcount hcount']
    | true =>
      rw [hs] at hsame
      have hcount := fieldCount_cons l rest
      have hcount' := fieldCount_cons l' rest'
      rw [hsame, if_pos rfl] at hcount
      rw [hs, if_pos rfl] at hcount'
      obtain - | ⟨part, more⟩ := rest
      · exact absurd hsame Bool.false_ne_true
      obtain - | ⟨part', more'⟩ := rest'
      · exact absurd hs Bool.false_ne_true
      obtain ⟨hpart, hmore⟩ := List.forall_mem_cons.1 hrest
      obtain ⟨hpart', hmore'⟩ := List.forall_mem_cons.1 hrest'
      rw [ofParts_of_isScript l hsame, ofParts_of_isScript l' hs, mk.injEq,
        hlang, (eq_iff_of_isWord hpart hpart').2.2, ← Prod.ext_iff,
        regionAndVariant_eq_iff hmore hmore', nameAlike_cons_iff hcount hcount',
        List.take_succ_cons, List.take_succ_cons, List.forall₂_cons,
        List.drop_succ_cons, List.drop_succ_cons, List.length_cons,
        List.length_cons, Nat.add_right_cancel_iff, and_assoc]
      exact and_congr_right fun _ => and_left_comm
  · -- only one of the two has a script
    refine iff_of_false (fun heq => hsame ?_) fun ha =>
      hsame (ha.script_eq hrest')
    rw [Bool.eq_iff_iff, ← script_ofParts_ne_nil_iff (l := l) hrest, heq,
      script_ofParts_ne_nil_iff hrest']

/-- **Reading a locale settles on one form.** For any two texts of ASCII words
with underscores or hyphens between them: the written form of the locale that
one of them names is read as the same locale, and they name one locale exactly
if they have as many parts, the parts read as language, script and region agree
but for case, and the others, which are the variant, are the same. -/
theorem ofText_eq_iff_nameAlike (s s' : Text) (h : s.AreWords isSeparator)
    (h' : s'.AreWords isSeparator) :
    ofText (ofText s).toText = ofText s
      ∧ (ofText s = ofText s' ↔ NameAlike (parts s) (parts s')) := by
  refine ⟨ofText_toText_ofText h, ?_⟩
  rw [parts_eq_split, parts_eq_split]
  unfold ofText
  rw [strip_of_areWords h, strip_of_areWords h']
  rcases hs : s.split isSeparator with - | ⟨l, rest⟩
  · exact absurd hs (Text.split_ne_nil _ _)
  rcases hs' : s'.split isSeparator with - | ⟨l', rest'⟩
  · exact absurd hs' (Text.split_ne_nil _ _)
  exact ofParts_eq_iff (fun part hp => h part (hs ▸ hp))
    fun part hp => h' part (hs' ▸ hp)

/-- Case and separators do not count in front of the variant, but in the
variant case does. -/
theorem ofText_eq_iff_nameAlike_sample :
    (lit "zh-hant_tw").AreWords isSeparator
      ∧ ofText (ofText (lit "zh-hant_tw")).toText = ofText (lit "zh-hant_tw")
      ∧ NameAlike (parts (lit "zh-hant_tw")) (parts (lit "ZH_Hant-TW"))
      ∧ ¬ NameAlike (parts (lit "en_US_POSIX")) (parts (lit "en_US_posix")) := by
  have hwords : (lit "zh-hant_tw").AreWords isSeparator := by decide +kernel
  obtain ⟨hform, hone⟩ := ofText_eq_iff_nameAlike (lit "zh-hant_tw")
    (lit "ZH_Hant-TW") hwords (by decide +kernel)
  obtain ⟨-, htwo⟩ := ofText_eq_iff_nameAlike (lit "en_US_POSIX")
    (lit "en_US_posix") (by decide +kernel) (by decide +kernel)
  exact ⟨hwords, hform, hone.1 (by decide +kernel),
    fun h => absurd (htwo.2 h) (by decide +kernel)⟩

end Locale

end Lexicon
