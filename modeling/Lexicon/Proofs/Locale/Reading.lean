import Lexicon.Locale
import Lexicon.Proofs.Text.Words

/-!
# Reading the text of a locale

A locale that was read from words is *legible*: its text tells its fields
apart, so reading that text gives the fields back, each in the case that
reading settles (`IsLegible.ofText_toText`). Lower case leaves a legible locale
legible. Language, script and region are found again in its text in whatever
case they were written, but the variant is found as it is: reading the
lower-case text gives the locale with its variant in lower case
(`ofText_lower_toText_ofText`).
-/

namespace Lexicon

theorem Text.strip_of_not_isBlank {t : Text}
    (h : ∀ c ∈ t, c.isBlank = false) : t.strip = t :=
  trim_of_forall h

namespace Locale

variable {l : Locale} {s : Text}

/-! ## Words and separators -/

theorem isSeparator_of_isAlphanumeric {c : CodePoint}
    (h : c.isAlphanumeric = true) : isSeparator c = false := by
  rw [Bool.eq_false_iff]
  unfold isSeparator
  rw [Ne, Bool.or_eq_true, beq_iff_eq, beq_iff_eq]
  rintro (rfl | rfl) <;> exact absurd h (by decide)

theorem isBlank_of_isAlphanumeric {c : CodePoint}
    (h : c.isAlphanumeric = true) : c.isBlank = false := by
  refine CodePoint.forall_ascii
    (P := fun c => c.isAlphanumeric = true → c.isBlank = false)
    (by decide +kernel) (CodePoint.val_lt_of_isAlphanumeric h) h

theorem strip_of_areWords (h : s.AreWords isSeparator) : s.strip = s := by
  refine Text.strip_of_not_isBlank fun c hc => ?_
  obtain hsep | ⟨part, hp, hc⟩ := Text.exists_mem_split isSeparator hc
  · unfold isSeparator at hsep
    rw [Bool.or_eq_true, beq_iff_eq, beq_iff_eq] at hsep
    obtain rfl | rfl := hsep <;> decide
  · exact isBlank_of_isAlphanumeric ((h part hp).alphanumeric c hc)

theorem split_join_of_isWord {parts : List Text} (hne : parts ≠ [])
    (h : ∀ part ∈ parts, part.IsWord) :
    (Text.join '_' parts).split isSeparator = parts :=
  Text.split_join rfl hne fun part hp c hc =>
    isSeparator_of_isAlphanumeric ((h part hp).alphanumeric c hc)

theorem areWords_isSeparator (h : s.AreWords (· == '_')) :
    s.AreWords isSeparator := by
  have hsplit : s.split isSeparator = s.split (· == '_') := by
    conv_lhs => rw [← Text.join_split '_' s]
    exact split_join_of_isWord (Text.split_ne_nil _ _) h
  unfold Text.AreWords
  rw [hsplit]
  exact h

/-- **Reading joined words** takes them for the fields. -/
theorem ofText_join {language : Text} {rest : List Text}
    (h : ∀ part ∈ language :: rest, part.IsWord) :
    ofText (Text.join '_' (language :: rest)) = ofParts language rest := by
  have hsplit := split_join_of_isWord (List.cons_ne_nil language rest) h
  have hwords : (Text.join '_' (language :: rest)).AreWords isSeparator := by
    unfold Text.AreWords
    rw [hsplit]
    exact h
  unfold ofText
  rw [strip_of_areWords hwords, hsplit]

theorem isScript_of_sameButCase {s t : Text} (h : s.SameButCase t)
    (ht : t.IsAscii) : isScript s = isScript t := by
  unfold isScript
  rw [h.length_eq, h.all_eq ht fun c hc => (CodePoint.eq_small hc).2.2.2]

/-! ## Legible locales -/

/-- **A locale whose text tells its fields apart**: they are words, only a
script looks like one, and a variant stands behind a region. -/
structure IsLegible (l : Locale) : Prop where
  /-- The language is a word. -/
  language : l.language.IsWord
  /-- The script, if there is one, is a word that looks like a script. -/
  script : l.script = [] ∨ (l.script.IsWord ∧ isScript l.script = true)
  /-- The region, if there is one, is a word that cannot be taken for the
  script. -/
  region : l.region = []
    ∨ (l.region.IsWord ∧ (l.script = [] → isScript l.region = false))
  /-- The variant, if there is one, consists of words behind the region. -/
  variant : l.variant = []
    ∨ (l.region ≠ [] ∧ l.variant.AreWords (· == '_'))

/-- **The words of a locale's text**: its fields that are not empty, the
variant in words. -/
def words (l : Locale) : List Text :=
  l.language :: ((if l.script = [] then [] else [l.script])
    ++ (if l.region = [] then [] else [l.region])
    ++ (if l.variant = [] then [] else l.variant.split (· == '_')))

namespace IsLegible

/-- The words of a legible locale are words. -/
theorem isWord (h : l.IsLegible) : ∀ part ∈ l.words, part.IsWord := by
  unfold words
  rw [List.forall_mem_cons, List.forall_mem_append, List.forall_mem_append]
  refine ⟨h.language, ⟨?_, ?_⟩, ?_⟩
  · split
    · exact fun _ hp => absurd hp List.not_mem_nil
    · rename_i hne
      exact List.forall_mem_singleton.2 (h.script.resolve_left hne).1
  · split
    · exact fun _ hp => absurd hp List.not_mem_nil
    · rename_i hne
      exact List.forall_mem_singleton.2 (h.region.resolve_left hne).1
  · split
    · exact fun _ hp => absurd hp List.not_mem_nil
    · rename_i hne
      exact (h.variant.resolve_left hne).2

end IsLegible

/-- **The text of a locale is its words**, joined. -/
theorem toText_eq_join (l : Locale) (h : l.language ≠ []) :
    l.toText = Text.join '_' l.words := by
  unfold toText fields words
  rw [List.filter_cons_of_pos (by simpa using h)]
  by_cases hv : l.variant = []
  · rw [if_pos hv, hv, List.append_nil]
    by_cases hs : l.script = [] <;> by_cases hr : l.region = [] <;>
      simp [hs, hr]
  · -- the variant was split at its own underscores, and they join it again
    rw [if_neg hv, ← List.cons_append,
      Text.join_append '_' (List.cons_ne_nil _ _) (Text.split_ne_nil _ _),
      Text.join_split, ← Text.join_concat '_' (List.cons_ne_nil _ _)]
    by_cases hs : l.script = [] <;> by_cases hr : l.region = [] <;>
      simp [hs, hr, hv]

theorem ofParts_of_isScript (language : Text) {part : Text}
    (h : isScript part = true) (more : List Text) :
    ofParts language (part :: more)
      = ⟨language.lower, part.title, (regionAndVariant more).1,
        (regionAndVariant more).2⟩ := by
  rw [ofParts, if_pos h]

theorem ofParts_of_not_isScript (language : Text) {part : Text}
    (h : isScript part = false) (more : List Text) :
    ofParts language (part :: more)
      = ⟨language.lower, [], part.upper, Text.join '_' more⟩ := by
  rw [ofParts, if_neg (by rw [h]; exact Bool.false_ne_true)]
  rfl

/-- The locale with each field in the case that reading settles. The variant
has none. -/
def settled (l : Locale) : Locale :=
  ⟨l.language.lower, l.script.title, l.region.upper, l.variant⟩

/-- The parts behind the script give the region and the variant. -/
theorem regionAndVariant_words (h : l.IsLegible) :
    regionAndVariant ((if l.region = [] then [] else [l.region])
        ++ (if l.variant = [] then [] else l.variant.split (· == '_')))
      = (l.region.upper, l.variant) := by
  by_cases hr : l.region = []
  · have hv : l.variant = [] := h.variant.resolve_right fun hv => hv.1 hr
    rw [if_pos hr, if_pos hv, hr, hv]
    rfl
  · rw [if_neg hr, List.singleton_append, regionAndVariant]
    by_cases hv : l.variant = []
    · rw [if_pos hv, hv]
      rfl
    · rw [if_neg hv, Text.join_split]

/-- **Reading the text of a legible locale** finds its fields again. -/
theorem IsLegible.ofText_toText (h : l.IsLegible) :
    ofText l.toText = l.settled := by
  have hrest := regionAndVariant_words h
  rw [toText_eq_join l h.language.ne_nil, words, ofText_join h.isWord, settled,
    List.append_assoc]
  by_cases hs : l.script = []
  · rw [if_pos hs, List.nil_append, hs]
    by_cases hr : l.region = []
    · have hv : l.variant = [] := h.variant.resolve_right fun hv => hv.1 hr
      rw [if_pos hr, if_pos hv, hr, hv]
      rfl
    · have hno := (h.region.resolve_left hr).2 hs
      rw [if_neg hr, List.singleton_append] at hrest ⊢
      rw [ofParts_of_not_isScript _ hno]
      exact congrArg₂ (Locale.mk _ _) rfl (congrArg Prod.snd hrest)
  · have hyes := (h.script.resolve_left hs).2
    rw [if_neg hs, List.singleton_append, ofParts_of_isScript _ hyes, hrest]

/-! ## Lower case -/

/-- The locale with every field in lower case. -/
def lowered (l : Locale) : Locale :=
  ⟨l.language.lower, l.script.lower, l.region.lower, l.variant.lower⟩

theorem isUnderscore_small {c : CodePoint} (hc : c.val < 0x80) :
    (c.small == (('_' : Char) : CodePoint)) = (c == (('_' : Char) : CodePoint)) :=
  CodePoint.forall_ascii
    (P := fun c => (c.small == (('_' : Char) : CodePoint))
      = (c == (('_' : Char) : CodePoint)))
    (by decide +kernel) hc

namespace IsLegible

/-- The fields of a legible locale are ASCII. -/
theorem isAscii (h : l.IsLegible) : ∀ field ∈ l.fields, field.IsAscii := by
  have hnil : Text.IsAscii [] := fun c hc => absurd hc List.not_mem_nil
  intro field hf
  unfold fields at hf
  simp only [List.mem_cons, List.not_mem_nil, or_false] at hf
  obtain rfl | rfl | rfl | rfl := hf
  · exact h.language.isAscii
  · obtain he | ⟨hw, -⟩ := h.script
    · exact he ▸ hnil
    · exact hw.isAscii
  · obtain he | ⟨hw, -⟩ := h.region
    · exact he ▸ hnil
    · exact hw.isAscii
  · obtain he | ⟨-, hw⟩ := h.variant
    · exact he ▸ hnil
    · intro c hc
      obtain hsep | ⟨part, hp, hc⟩ :=
        Text.exists_mem_split (· == (('_' : Char) : CodePoint)) hc
      · rw [beq_iff_eq.1 hsep]
        decide
      · exact (hw part hp).isAscii c hc

theorem isAscii_variant (h : l.IsLegible) : l.variant.IsAscii :=
  h.isAscii _ (by simp [fields])

theorem isAscii_toText (h : l.IsLegible) : l.toText.IsAscii := by
  unfold toText Text.IsAscii
  rw [Text.forall_mem_join (P := fun c => c.val < 0x80) (by decide)]
  exact fun part hp => h.isAscii part (List.mem_filter.1 hp).1

/-- **A legible locale is legible in lower case.** -/
theorem lowered (h : l.IsLegible) : l.lowered.IsLegible := by
  have hword : ∀ {t : Text}, t.IsWord → t.lower.IsWord := fun ht =>
    ht.of_sameButCase (Text.sameButCase_lower ht.isAscii)
  have hscript : ∀ {t : Text}, t.IsWord → isScript t.lower = isScript t :=
    fun ht => isScript_of_sameButCase (Text.sameButCase_lower ht.isAscii)
      ht.isAscii
  constructor
  · exact hword h.language
  · obtain he | ⟨hw, hs⟩ := h.script
    · exact Or.inl (congrArg Text.lower he)
    · exact Or.inr ⟨hword hw, (hscript hw).trans hs⟩
  · obtain he | ⟨hw, hr⟩ := h.region
    · exact Or.inl (congrArg Text.lower he)
    · refine Or.inr ⟨hword hw, fun hs => (hscript hw).trans (hr ?_)⟩
      obtain he | ⟨hw', -⟩ := h.script
      · exact he
      · exact absurd hs (hword hw').ne_nil
  · obtain he | ⟨hr, hv⟩ := h.variant
    · exact Or.inl (congrArg Text.lower he)
    · refine Or.inr ⟨?_, ?_⟩
      · exact (hword (h.region.resolve_left hr).1).ne_nil
      · show Text.AreWords _ l.variant.lower
        unfold Text.AreWords
        rw [Text.lower_eq_map h.isAscii_variant, Text.split_map fun c hc =>
          isUnderscore_small (h.isAscii_variant c hc), List.forall_mem_map]
        intro part hp
        rw [← Text.lower_eq_map (hv part hp).isAscii]
        exact hword (hv part hp)

/-- **The text in lower case** is that of the locale in lower case. -/
theorem toText_lowered (h : l.IsLegible) :
    l.lowered.toText = l.toText.lower := by
  have hfields : l.lowered.fields = l.fields.map (·.map CodePoint.small) := by
    have hlower : l.lowered.fields = l.fields.map Text.lower := rfl
    rw [hlower]
    exact List.map_congr_left fun field hf => Text.lower_eq_map (h.isAscii _ hf)
  rw [Text.lower_eq_map h.isAscii_toText]
  unfold toText
  rw [Text.map_join, hfields, List.filter_map]
  have hunderscore : CodePoint.small (('_' : Char) : CodePoint)
      = (('_' : Char) : CodePoint) := by
    decide
  rw [hunderscore]
  congr 3
  funext field
  simp

end IsLegible

/-! ## Locales that were read -/

/-- What is left of the parts is a variant. -/
theorem variant_join {rest : List Text} (h : ∀ part ∈ rest, part.IsWord) :
    Text.join '_' rest = []
      ∨ (Text.join '_' rest).AreWords (· == '_') := by
  by_cases hne : rest = []
  · exact Or.inl (hne ▸ rfl)
  · refine Or.inr ?_
    have hsplit : (Text.join '_' rest).split (· == '_') = rest :=
      Text.split_join rfl hne fun part hp c hc =>
        (Bool.or_eq_false_iff.1 (isSeparator_of_isAlphanumeric
          ((h part hp).alphanumeric c hc))).1
    unfold Text.AreWords
    rw [hsplit]
    exact h

/-- **What reading makes of words is legible**, and settled. -/
theorem isLegible_ofParts {language : Text} {rest : List Text}
    (h : ∀ part ∈ language :: rest, part.IsWord) :
    (ofParts language rest).IsLegible
      ∧ (ofParts language rest).settled = ofParts language rest := by
  have hlower : ∀ {t : Text}, t.IsWord → Text.SameButCase t.lower t :=
    fun ht => Text.sameButCase_lower ht.isAscii
  have hupper : ∀ {t : Text}, t.IsWord → Text.SameButCase t.upper t :=
    fun ht => Text.sameButCase_upper ht.isAscii
  obtain ⟨hlang, hrest⟩ := List.forall_mem_cons.1 h
  have hlang' := hlang.of_sameButCase (hlower hlang)
  have hll := (hlower hlang).lower_eq hlang.isAscii
  cases rest with
  | nil =>
    refine ⟨⟨hlang', Or.inl rfl, Or.inl rfl, Or.inl rfl⟩, ?_⟩
    show (⟨language.lower.lower, [], [], []⟩ : Locale) = _
    rw [hll]
    rfl
  | cons part more =>
    obtain ⟨hpart, hmore⟩ := List.forall_mem_cons.1 hrest
    cases hs : isScript part with
    | false =>
      -- the second word is the region, and the others are the variant
      have hregion := hpart.of_sameButCase (hupper hpart)
      rw [ofParts_of_not_isScript _ hs]
      refine ⟨⟨hlang', Or.inl rfl, Or.inr ⟨hregion, fun _ => ?_⟩,
        (variant_join hmore).imp_right fun hv => ⟨hregion.ne_nil, hv⟩⟩, ?_⟩
      · exact (isScript_of_sameButCase (hupper hpart) hpart.isAscii).trans hs
      · show (⟨language.lower.lower, [], part.upper.upper, _⟩ : Locale) = _
        rw [hll, (hupper hpart).upper_eq hpart.isAscii]
    | true =>
      -- the second word is the script, and a third one the region
      have htitle := Text.sameButCase_title hpart.isAscii
      have hscript := hpart.of_sameButCase htitle
      have hyes := (isScript_of_sameButCase htitle hpart.isAscii).trans hs
      have htt := htitle.title_eq hpart.isAscii
      rw [ofParts_of_isScript _ hs]
      cases more with
      | nil =>
        refine ⟨⟨hlang', Or.inr ⟨hscript, hyes⟩, Or.inl rfl, Or.inl rfl⟩, ?_⟩
        show (⟨language.lower.lower, part.title.title, [], []⟩ : Locale) = _
        rw [hll, htt]
        rfl
      | cons region more =>
        obtain ⟨hr, hmore⟩ := List.forall_mem_cons.1 hmore
        have hregion := hr.of_sameButCase (hupper hr)
        refine ⟨⟨hlang', Or.inr ⟨hscript, hyes⟩, Or.inr ⟨hregion, fun hno => ?_⟩,
          (variant_join hmore).imp_right fun hv => ⟨hregion.ne_nil, hv⟩⟩, ?_⟩
        · exact absurd hno hscript.ne_nil
        · show (⟨language.lower.lower, part.title.title, region.upper.upper, _⟩
            : Locale) = _
          rw [hll, htt, (hupper hr).upper_eq hr.isAscii]
          rfl

theorem isLegible_ofText (h : s.AreWords isSeparator) :
    (ofText s).IsLegible ∧ (ofText s).settled = ofText s := by
  unfold ofText
  rw [strip_of_areWords h]
  rcases hs : s.split isSeparator with - | ⟨language, rest⟩
  · exact absurd hs (Text.split_ne_nil _ _)
  · exact isLegible_ofParts fun part hp => h part (hs ▸ hp)

/-- **The text of a language alone** is the language, which reading writes in
lower case. -/
theorem lower_toText_of_language (hl : l.IsLegible) (hs : l.settled = l)
    (hscript : l.script = []) (hregion : l.region = []) :
    l.toText.lower = l.language := by
  have hvariant : l.variant = [] :=
    hl.variant.resolve_right fun hv => hv.1 hregion
  have htext : l.toText = l.language := by
    unfold toText fields
    rw [hscript, hregion, hvariant,
      List.filter_cons_of_pos (by simpa using hl.language.ne_nil)]
    exact Text.join_singleton _ _
  rw [htext]
  exact congrArg language hs

/-- **A locale that was read from words is found again in its text.** -/
theorem ofText_toText_ofText (h : s.AreWords isSeparator) :
    ofText (ofText s).toText = ofText s := by
  obtain ⟨hl, hs⟩ := isLegible_ofText h
  rw [hl.ofText_toText, hs]

/-- **The lower-case text of a locale** that was read from words names the
locale with its variant in lower case. -/
theorem ofText_lower_toText_ofText (h : s.AreWords isSeparator) :
    ofText (ofText s).toText.lower
      = { ofText s with variant := (ofText s).variant.lower } := by
  obtain ⟨hl, hs⟩ := isLegible_ofText h
  have hfield : ∀ field ∈ (ofText s).fields,
      Text.SameButCase field.lower field ∧ field.IsAscii := fun field hf =>
    ⟨Text.sameButCase_lower (hl.isAscii field hf), hl.isAscii field hf⟩
  unfold fields at hfield
  simp only [List.forall_mem_cons] at hfield
  obtain ⟨⟨hlang, hla⟩, ⟨hscript, hsa⟩, ⟨hregion, hra⟩, -⟩ := hfield
  rw [← hl.toText_lowered, hl.lowered.ofText_toText]
  show (⟨(ofText s).language.lower.lower, (ofText s).script.lower.title,
    (ofText s).region.lower.upper, (ofText s).variant.lower⟩ : Locale) = _
  rw [hlang.lower_eq hla, hscript.title_eq hsa, hregion.upper_eq hra]
  exact congrArg
    (fun l : Locale => { l with variant := (ofText s).variant.lower }) hs

end Locale

end Lexicon
