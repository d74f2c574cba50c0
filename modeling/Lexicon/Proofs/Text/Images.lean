import Lexicon.Locale
import Lexicon.Proofs.Text.Parts

/-!
# What case mappings bring in

A case mapping writes letters for letters. So a code point below the capitals –
a digit, a sign such as the slash, or a control character – is in the image of a
text only if it is in the text itself (`Text.mem_of_mem_lower` and its
neighbours), and it is in the text of a locale only if it is in the text that
the locale was read from (`Locale.mem_of_mem_toText_ofText`).
-/

namespace Lexicon

/-! ## Case tables -/

/-- **Whether the images of a case table are letters**, as far as that can be
told by where they stand: from the capital A on. -/
def areLetters (runs : List CaseRun) (specials : List (Nat × List CodePoint)) :
    Bool :=
  runs.all (fun r => (0x41 : Int) ≤ r.first + r.shift)
    && specials.all fun e => e.2.all fun c => 0x41 ≤ c.val

theorem areLetters_lower : areLetters lowerRuns lowerSpecials = true := by
  decide +kernel

theorem areLetters_upper : areLetters upperRuns upperSpecials = true := by
  decide +kernel

theorem areLetters_title : areLetters titleRuns titleSpecials = true := by
  decide +kernel

/-- An image of such a table, of a code point past ASCII, is none below the
letters. -/
theorem le_of_mem_caseImage? {runs : List CaseRun}
    {specials : List (Nat × List CodePoint)}
    (h : areLetters runs specials = true) {c d : CodePoint} {t : Text}
    (hc : 0x80 ≤ c.val) (ht : caseImage? runs specials c = some t)
    (hd : d ∈ t) : 0x41 ≤ d.val := by
  obtain ⟨hruns, hspecials⟩ := Bool.and_eq_true_iff.1 h
  unfold caseImage? at ht
  split at ht
  · rename_i special hspecial
    obtain rfl := Option.some.inj ht
    obtain ⟨front, back, heq, -⟩ := List.lookup_eq_some_iff.1 hspecial
    have hmem : (c.val, special) ∈ specials := by
      rw [heq]
      exact List.mem_append_right _ List.mem_cons_self
    exact of_decide_eq_true
      (List.all_eq_true.1 (List.all_eq_true.1 hspecials _ hmem) d hd)
  · obtain ⟨r, hr, rfl⟩ := Option.map_eq_some_iff.1 ht
    obtain rfl := List.mem_singleton.1 hd
    have hfirst : r.first ≤ c.val := by
      have hholds := List.find?_some hr
      unfold CaseRun.holds at hholds
      simp only [Bool.and_eq_true, decide_eq_true_eq] at hholds
      exact hholds.1.1
    have hshift : (0x41 : Int) ≤ r.first + r.shift := of_decide_eq_true
      (List.all_eq_true.1 hruns r (List.mem_of_find?_eq_some hr))
    unfold CaseRun.image CodePoint.ofNat?
    split
    · show 0x41 ≤ (c.val + r.shift).toNat
      omega
    · show 0x41 ≤ c.val
      omega

namespace CodePoint

variable {c d : CodePoint}

/-- **Lower case brings in nothing below the letters.** -/
theorem eq_of_mem_lower (hd : d.val < 0x41) (h : d ∈ c.lower) : d = c := by
  unfold lower at h
  split at h
  · rw [List.mem_singleton] at h
    split at h
    · rename_i hc
      have hval : (c + 0x20).val = c.val + 0x20 := by
        rw [Fin.val_add]
        exact Nat.mod_eq_of_lt (by show c.val + 0x20 < 0x110000; omega)
      rw [h, hval] at hd
      omega
    · exact h
  · rename_i hc
    cases hi : caseImage? lowerRuns lowerSpecials c with
    | none =>
      rw [hi] at h
      exact List.mem_singleton.1 h
    | some t =>
      rw [hi] at h
      have hle := le_of_mem_caseImage? areLetters_lower (by omega) hi h
      omega

/-- **Upper case brings in nothing below the letters.** -/
theorem eq_of_mem_upper (hd : d.val < 0x41) (h : d ∈ c.upper) : d = c := by
  unfold upper at h
  split at h
  · rw [List.mem_singleton] at h
    split at h
    · rename_i hc
      have hval : (c - 0x20).val = c.val - 0x20 := by
        rw [Fin.sub_def]
        show (0x110000 - 0x20 + c.val) % 0x110000 = _
        omega
      rw [h, hval] at hd
      omega
    · exact h
  · rename_i hc
    cases hi : caseImage? upperRuns upperSpecials c with
    | none =>
      rw [hi] at h
      exact List.mem_singleton.1 h
    | some t =>
      rw [hi] at h
      have hle := le_of_mem_caseImage? areLetters_upper (by omega) hi h
      omega

/-- **Title case brings in nothing below the letters.** -/
theorem eq_of_mem_title (hd : d.val < 0x41) (h : d ∈ c.title) : d = c := by
  unfold title at h
  split at h
  · exact eq_of_mem_upper hd h
  · rename_i hc
    cases hi : caseImage? titleRuns titleSpecials c with
    | none =>
      rw [hi] at h
      exact eq_of_mem_upper hd h
    | some t =>
      rw [hi] at h
      have hle := le_of_mem_caseImage? areLetters_title (by omega) hi h
      omega

end CodePoint

namespace Text

variable {d : CodePoint} {t : Text}

theorem eq_of_mem_lowerIn {before after : Text} {c : CodePoint}
    (hd : d.val < 0x41) (h : d ∈ lowerIn before c after) : d = c := by
  unfold lowerIn at h
  split at h
  · rw [List.mem_singleton] at h
    rw [h] at hd
    split at hd <;> exact absurd hd (by decide)
  · exact CodePoint.eq_of_mem_lower hd h

theorem mem_of_mem_lower (hd : d.val < 0x41) (h : d ∈ t.lower) : d ∈ t := by
  suffices hfrom : ∀ before, d ∈ lowerFrom before t → d ∈ t from hfrom [] h
  clear h
  induction t with
  | nil => exact fun _ h => h
  | cons c rest ih =>
    intro before h
    obtain h | h := List.mem_append.1 h
    · exact List.mem_cons.2 (Or.inl (eq_of_mem_lowerIn hd h))
    · exact List.mem_cons_of_mem _ (ih _ h)

theorem mem_of_mem_upper (hd : d.val < 0x41) (h : d ∈ t.upper) : d ∈ t := by
  obtain ⟨c, hc, h⟩ := List.mem_flatMap.1 h
  rwa [CodePoint.eq_of_mem_upper hd h]

theorem mem_of_mem_title (hd : d.val < 0x41) (h : d ∈ t.title) : d ∈ t := by
  suffices hfrom : ∀ before, d ∈ titleFrom before t → d ∈ t from hfrom [] h
  clear h
  induction t with
  | nil => exact fun _ h => h
  | cons c rest ih =>
    intro before h
    obtain h | h := List.mem_append.1 h
    · refine List.mem_cons.2 (Or.inl ?_)
      split at h
      · exact eq_of_mem_lowerIn hd h
      · exact CodePoint.eq_of_mem_title hd h
    · exact List.mem_cons_of_mem _ (ih _ h)

theorem mem_of_mem_trim {isEdge : CodePoint → Bool} (h : d ∈ t.trim isEdge) :
    d ∈ t := by
  unfold trim at h
  rw [List.mem_reverse] at h
  have h := List.dropWhile_subset _ h
  rw [List.mem_reverse] at h
  exact List.dropWhile_subset _ h

/-- What a part holds is in the text. -/
theorem mem_of_mem_split {isSeparator : CodePoint → Bool} {part : Text}
    (hp : part ∈ t.split isSeparator) (h : d ∈ part) : d ∈ t := by
  induction t generalizing part with
  | nil =>
    rw [split, List.mem_singleton] at hp
    rwa [hp] at h
  | cons c rest ih =>
    rw [split] at hp
    split at hp
    · obtain rfl | hp := List.mem_cons.1 hp
      · exact absurd h List.not_mem_nil
      · exact List.mem_cons_of_mem _ (ih hp h)
    · split at hp
      · rename_i hnil
        exact absurd hnil (split_ne_nil _ _)
      · rename_i first parts heq
        obtain rfl | hp := List.mem_cons.1 hp
        · obtain rfl | h := List.mem_cons.1 h
          · exact List.mem_cons_self
          · exact List.mem_cons_of_mem _
              (ih (heq ▸ List.mem_cons_self) h)
        · exact List.mem_cons_of_mem _
            (ih (heq ▸ List.mem_cons_of_mem _ hp) h)

end Text

/-! ## Locales -/

namespace Locale

variable {d : CodePoint} {t : Text}

/-- What joined parts hold, the sign between them apart, is in a part. -/
theorem exists_mem_part_of_mem_join {parts : List Text} (hd : d.val < 0x41)
    (h : d ∈ Text.join '_' parts) : ∃ part ∈ parts, d ∈ part := by
  have hunder : (('_' : Char) : CodePoint) ≠ d := by
    rintro rfl
    exact absurd hd (by decide)
  by_contra hnone
  have hall : ∀ c ∈ Text.join '_' parts, c ≠ d := by
    refine (Text.forall_mem_join (P := (· ≠ d)) hunder).2 ?_
    rintro part hp c hc rfl
    exact hnone ⟨part, hp, hc⟩
  exact hall d h rfl

/-- What a region and a variant hold is in the parts that they are made of. -/
theorem exists_mem_part_of_mem_regionAndVariant {parts : List Text}
    (hd : d.val < 0x41) {field : Text}
    (hf : field = (regionAndVariant parts).1
      ∨ field = (regionAndVariant parts).2) (h : d ∈ field) :
    ∃ part ∈ parts, d ∈ part := by
  cases parts with
  | nil =>
    obtain rfl | rfl := hf
    all_goals exact absurd h List.not_mem_nil
  | cons region rest =>
    obtain rfl | rfl := hf
    · exact ⟨region, List.mem_cons_self, Text.mem_of_mem_upper hd h⟩
    · obtain ⟨part, hp, hc⟩ := exists_mem_part_of_mem_join hd h
      exact ⟨part, List.mem_cons_of_mem _ hp, hc⟩

/-- What the fields of a locale hold is in the parts that they are made of. -/
theorem exists_mem_part_of_mem_field {language : Text} {rest : List Text}
    (hd : d.val < 0x41) {field : Text}
    (hf : field ∈ (ofParts language rest).fields) (h : d ∈ field) :
    ∃ part ∈ language :: rest, d ∈ part := by
  have hlanguage : d ∈ language.lower → ∃ part ∈ language :: rest, d ∈ part :=
    fun h => ⟨language, List.mem_cons_self, Text.mem_of_mem_lower hd h⟩
  have hnil : d ∉ ([] : Text) := List.not_mem_nil
  unfold ofParts fields at hf
  split at hf
  · simp only [List.mem_cons, List.not_mem_nil, or_false] at hf
    obtain rfl | rfl | rfl | rfl := hf
    · exact hlanguage h
    all_goals exact absurd h hnil
  · rename_i part more
    split at hf
    · simp only [List.mem_cons, List.not_mem_nil, or_false] at hf
      obtain rfl | rfl | hf := hf
      · exact hlanguage h
      · exact ⟨part, by simp, Text.mem_of_mem_title hd h⟩
      · obtain ⟨p, hp, hc⟩ := exists_mem_part_of_mem_regionAndVariant hd hf h
        exact ⟨p, by simp [hp], hc⟩
    · simp only [List.mem_cons, List.not_mem_nil, or_false] at hf
      obtain rfl | rfl | hf := hf
      · exact hlanguage h
      · exact absurd h hnil
      · obtain ⟨p, hp, hc⟩ := exists_mem_part_of_mem_regionAndVariant hd hf h
        exact ⟨p, List.mem_cons_of_mem _ hp, hc⟩

/-- **Reading a locale brings in nothing below the letters.** -/
theorem mem_of_mem_field_ofText (hd : d.val < 0x41) {field : Text}
    (hf : field ∈ (ofText t).fields) (h : d ∈ field) : d ∈ t := by
  unfold ofText at hf
  rcases hs : t.strip.split isSeparator with - | ⟨language, rest⟩
  · exact absurd hs (Text.split_ne_nil _ _)
  · rw [hs] at hf
    obtain ⟨part, hp, hc⟩ := exists_mem_part_of_mem_field hd hf h
    exact Text.mem_of_mem_trim (Text.mem_of_mem_split (hs ▸ hp) hc)

/-- **Nor does the text of a locale that was read.** -/
theorem mem_of_mem_toText_ofText (hd : d.val < 0x41)
    (h : d ∈ (ofText t).toText) : d ∈ t := by
  obtain ⟨field, hf, hc⟩ := exists_mem_part_of_mem_join hd h
  exact mem_of_mem_field_ofText hd (List.mem_filter.1 hf).1 hc

end Locale

end Lexicon
