import Mathlib.Data.List.Induction
import Mathlib.Data.List.Nodup
import Lexicon.Listing

/-!
# The highest version of each locale

What merging keeps: of the candidates of a locale the first one that no other
exceeds. `Record.IsBestOf` says so of a record and a list of candidates
without mentioning the merge, and `Listing.Summarizes` says of a listing that
it holds exactly these records, one for each locale, in the order in which the
locales came up.

That is an invariant. The empty listing summarizes no candidates, and merging
one more candidate into a summary gives the summary with that candidate behind
the others (`Listing.Summarizes.merge`), so every run of merges ends in a
summary of what was merged (`Listing.summarizes_ofCandidates`). The answer of
a single merge is read off it too: a candidate is kept exactly if no earlier
one of its locale reaches its version.
-/

namespace Lexicon

/-! ## The best candidate of a locale -/

/-- **The first of the greatest version** among the candidates of its locale:
every earlier candidate of that locale is below it, and no later one is above
it. -/
def Record.IsBestOf (r : Record) (candidates : List Record) : Prop :=
  ∃ before after, candidates = before ++ r :: after
    ∧ (∀ c ∈ before, c.locale = r.locale → c.version < r.version)
    ∧ ∀ c ∈ after, c.locale = r.locale → c.version ≤ r.version

namespace Record.IsBestOf

variable {r new : Record} {candidates : List Record}

theorem mem (h : r.IsBestOf candidates) : r ∈ candidates := by
  obtain ⟨before, after, rfl, -, -⟩ := h
  exact List.mem_append_right _ List.mem_cons_self

theorem version_le (h : r.IsBestOf candidates) {c : Record}
    (hc : c ∈ candidates) (hl : c.locale = r.locale) :
    c.version ≤ r.version := by
  obtain ⟨before, after, rfl, hbefore, hafter⟩ := h
  rcases List.mem_append.1 hc with hc | hc
  · exact Int.le_of_lt (hbefore c hc hl)
  · rcases List.mem_cons.1 hc with rfl | hc
    · exact Int.le_refl _
    · exact hafter c hc hl

theorem concat (h : r.IsBestOf candidates)
    (hn : new.locale = r.locale → new.version ≤ r.version) :
    r.IsBestOf (candidates ++ [new]) := by
  obtain ⟨before, after, rfl, hbefore, hafter⟩ := h
  refine ⟨before, after ++ [new], by simp, hbefore, fun c hc hl => ?_⟩
  rcases List.mem_append.1 hc with hc | hc
  · exact hafter c hc hl
  · obtain rfl := List.mem_singleton.1 hc
    exact hn hl

theorem concat_self
    (h : ∀ c ∈ candidates, c.locale = new.locale → c.version < new.version) :
    new.IsBestOf (candidates ++ [new]) :=
  ⟨candidates, [], rfl, h, fun _ hc => absurd hc List.not_mem_nil⟩

end Record.IsBestOf

namespace Listing

/-! ## One merge -/

/-- The locales of a listing, in order. -/
def locales (listing : Listing) : List Locale :=
  listing.map (·.locale)

/-- **A merge adds a locale only if it is new**, and then behind all others. -/
theorem locales_merge (new : Record) (listing : Listing) :
    (merge new listing).locales
      = if new.locale ∈ listing.locales then listing.locales
        else listing.locales ++ [new.locale] := by
  induction listing with
  | nil => rfl
  | cons old rest ih =>
    unfold merge
    by_cases h : old.locale = new.locale
    · have hmem : new.locale ∈ locales (old :: rest) :=
        List.mem_map.2 ⟨old, List.mem_cons_self, h⟩
      rw [if_pos h, if_pos hmem]
      split
      · rfl
      · show new.locale :: locales rest = old.locale :: locales rest
        rw [h]
    · have hmem : new.locale ∈ locales (old :: rest)
          ↔ new.locale ∈ locales rest := by
        unfold locales
        rw [List.map_cons, List.mem_cons, or_iff_right (Ne.symm h)]
      rw [if_neg h]
      show old.locale :: locales (merge new rest) = _
      rw [ih]
      by_cases hr : new.locale ∈ locales rest
      · rw [if_pos hr, if_pos (hmem.2 hr)]
        rfl
      · rw [if_neg hr, if_neg (mt hmem.1 hr)]
        rfl

/-- **What a merge leaves**: a record that was listed and that the candidate
does not exceed, or the candidate where it exceeds what was listed. -/
theorem mem_merge {new r : Record} {listing : Listing}
    (hd : listing.locales.Nodup) (h : r ∈ merge new listing) :
    (r ∈ listing ∧ (new.locale = r.locale → new.version ≤ r.version))
      ∨ (r = new ∧ ∀ old ∈ listing, old.locale = new.locale
          → old.version < new.version) := by
  induction listing with
  | nil => exact Or.inr ⟨List.mem_singleton.1 h, by simp⟩
  | cons old rest ih =>
    obtain ⟨hold, hd⟩ := List.nodup_cons.1 hd
    -- the first record of the locale is its only one
    have honly : ∀ c ∈ rest, c.locale ≠ old.locale := fun c hc he =>
      hold (List.mem_map.2 ⟨c, hc, he⟩)
    unfold merge at h
    by_cases hl : old.locale = new.locale
    · rw [if_pos hl] at h
      have hrest : ∀ c ∈ rest, c.locale ≠ new.locale := fun c hc he =>
        honly c hc (he.trans hl.symm)
      split at h
      · rename_i hle
        refine Or.inl ⟨h, fun he => ?_⟩
        rcases List.mem_cons.1 h with rfl | hr
        · exact hle
        · exact absurd he.symm (hrest r hr)
      · rename_i hlt
        rcases List.mem_cons.1 h with rfl | hr
        · refine Or.inr ⟨rfl, fun c hc he => ?_⟩
          rcases List.mem_cons.1 hc with rfl | hc
          · exact Int.not_le.1 hlt
          · exact absurd he (hrest c hc)
        · exact Or.inl ⟨List.mem_cons_of_mem _ hr,
            fun he => absurd he.symm (hrest r hr)⟩
    · rw [if_neg hl] at h
      rcases List.mem_cons.1 h with rfl | hr
      · exact Or.inl ⟨List.mem_cons_self, fun he => absurd he.symm hl⟩
      · rcases ih hd hr with ⟨hr, hle⟩ | ⟨rfl, hlt⟩
        · exact Or.inl ⟨List.mem_cons_of_mem _ hr, hle⟩
        · refine Or.inr ⟨rfl, fun c hc he => ?_⟩
          rcases List.mem_cons.1 hc with rfl | hc
          · exact absurd he hl
          · exact hlt c hc he

/-- A candidate is kept exactly if it exceeds what is listed for its
locale. -/
theorem keeps_iff {new : Record} {listing : Listing}
    (hd : listing.locales.Nodup) :
    keeps new listing
      ↔ ∀ old ∈ listing, old.locale = new.locale
          → old.version < new.version := by
  induction listing with
  | nil => simp [keeps]
  | cons old rest ih =>
    obtain ⟨hold, hd⟩ := List.nodup_cons.1 hd
    unfold keeps at ih ⊢
    rw [List.find?_cons]
    by_cases hl : old.locale = new.locale
    · have hrest : ∀ c ∈ rest, c.locale ≠ new.locale := fun c hc he =>
        hold (List.mem_map.2 ⟨c, hc, he.trans hl.symm⟩)
      simp only [hl, decide_true, List.forall_mem_cons, forall_const,
        decide_eq_true_eq]
      exact (and_iff_left fun c hc he => absurd he (hrest c hc)).symm
    · simp only [hl, decide_false, List.forall_mem_cons, false_implies,
        true_and]
      exact ih hd

/-- **Whether a record is kept is told by its locale.** -/
def IsByLocale (keep : Record → Bool) : Prop :=
  ∀ r r' : Record, r.locale = r'.locale → keep r = keep r'

/-- **A merge touches no other locale**: of the records that are kept by their
locale it merges a candidate with these, if it is kept itself, and does nothing
to them otherwise. -/
theorem filter_merge {keep : Record → Bool} (hk : IsByLocale keep)
    (new : Record) (listing : Listing) :
    (merge new listing).filter keep
      = if keep new then merge new (listing.filter keep)
        else listing.filter keep := by
  induction listing with
  | nil =>
    by_cases hn : keep new = true
    · rw [if_pos hn, merge.eq_1, List.filter_cons_of_pos hn]
      rfl
    · rw [if_neg hn, merge.eq_1, List.filter_cons_of_neg hn]
  | cons old rest ih =>
    rw [merge.eq_2]
    by_cases hl : old.locale = new.locale
    · rw [if_pos hl, ← hk old new hl]
      by_cases ho : keep old = true
      · rw [if_pos ho, List.filter_cons_of_pos ho, merge.eq_2, if_pos hl]
        split
        · rw [List.filter_cons_of_pos ho]
        · rw [List.filter_cons_of_pos ((hk old new hl).symm.trans ho)]
      · rw [if_neg ho, List.filter_cons_of_neg ho]
        split
        · rw [List.filter_cons_of_neg ho]
        · rw [List.filter_cons_of_neg (by rwa [← hk old new hl])]
    · rw [if_neg hl]
      by_cases ho : keep old = true
      · rw [List.filter_cons_of_pos ho, List.filter_cons_of_pos ho, ih,
          merge.eq_2, if_neg hl]
        split <;> rfl
      · rw [List.filter_cons_of_neg ho, List.filter_cons_of_neg ho, ih]

/-! ## Whole runs -/

/-- **A listing that holds the best candidate of each locale**, each locale
once, in the order in which the locales came up. -/
structure Summarizes (listing : Listing) (candidates : List Record) :
    Prop where
  /-- No locale is listed twice. -/
  nodup : listing.locales.Nodup
  /-- The locales are those of the candidates, each at its first
  appearance. -/
  locales_eq : listing.locales = (candidates.map (·.locale)).eraseDups
  /-- Each record is the best candidate of its locale. -/
  best : ∀ r ∈ listing, r.IsBestOf candidates

namespace Summarizes

variable {listing : Listing} {candidates : List Record}

theorem mem_locales (h : Summarizes listing candidates) {l : Locale} :
    l ∈ listing.locales ↔ ∃ c ∈ candidates, c.locale = l := by
  rw [h.locales_eq, List.mem_eraseDups, List.mem_map]

/-- Every candidate is listed or gave way to a record of its locale that it
does not exceed. -/
theorem exists_ge (h : Summarizes listing candidates) {c : Record}
    (hc : c ∈ candidates) :
    ∃ r ∈ listing, r.locale = c.locale ∧ c.version ≤ r.version := by
  obtain ⟨r, hr, hl⟩ := List.mem_map.1 (h.mem_locales.2 ⟨c, hc, rfl⟩)
  exact ⟨r, hr, hl, (h.best r hr).version_le hc hl.symm⟩

/-- **A candidate is kept exactly if it exceeds every earlier one of its
locale.** -/
theorem keeps_iff (h : Summarizes listing candidates) (new : Record) :
    keeps new listing
      ↔ ∀ c ∈ candidates, c.locale = new.locale
          → c.version < new.version := by
  rw [Listing.keeps_iff h.nodup]
  constructor
  · intro hlt c hc hl
    obtain ⟨r, hr, hrl, hle⟩ := h.exists_ge hc
    exact Int.lt_of_le_of_lt hle (hlt r hr (hrl.trans hl))
  · intro hlt r hr hl
    exact hlt r (h.best r hr).mem hl

/-- **Merging one more candidate gives the summary with it behind the
others.** -/
theorem merge (h : Summarizes listing candidates) (new : Record) :
    Summarizes (merge new listing) (candidates ++ [new]) := by
  have hmem : new.locale ∈ candidates.map (·.locale)
      ↔ new.locale ∈ listing.locales := by
    rw [h.locales_eq, List.mem_eraseDups]
  refine ⟨?_, ?_, fun r hr => ?_⟩
  · rw [locales_merge]
    split
    · exact h.nodup
    · rename_i hn
      rw [← List.concat_eq_append]
      exact List.Nodup.concat hn h.nodup
  · rw [locales_merge, List.map_append, List.map_singleton,
      List.eraseDups_append, ← h.locales_eq]
    unfold List.removeAll
    by_cases hn : new.locale ∈ candidates.map (·.locale)
    · rw [if_pos (hmem.1 hn), List.filter_cons_of_neg (by simpa using hn),
        List.filter_nil, List.eraseDups_nil, List.append_nil]
    · rw [if_neg (mt hmem.2 hn), List.filter_cons_of_pos (by simpa using hn),
        List.filter_nil]
      rfl
  · rcases mem_merge h.nodup hr with ⟨hr, hle⟩ | ⟨rfl, hlt⟩
    · exact (h.best r hr).concat hle
    · refine Record.IsBestOf.concat_self ?_
      exact (h.keeps_iff r).1 ((Listing.keeps_iff h.nodup).2 hlt)

end Summarizes

/-- **A run of merges ends in a summary of what was merged.** -/
theorem summarizes_ofCandidates (candidates : List Record) :
    Summarizes (ofCandidates candidates) candidates := by
  -- the invariant is carried by the candidates merged so far, so the
  -- induction takes them from the end
  induction candidates using List.reverseRecOn with
  | nil => exact ⟨List.nodup_nil, rfl, fun _ hr => absurd hr List.not_mem_nil⟩
  | append_singleton candidates new ih =>
    unfold ofCandidates
    rw [List.foldl_append]
    exact ih.merge new

/-- **The records of some locales** are what the candidates of these give. -/
theorem filter_ofCandidates {keep : Record → Bool} (hk : IsByLocale keep)
    (candidates : List Record) :
    (ofCandidates candidates).filter keep
      = ofCandidates (candidates.filter keep) := by
  have hconcat : ∀ cs new, ofCandidates (cs ++ [new])
      = Listing.merge new (ofCandidates cs) :=
    fun cs new => List.foldl_append
  induction candidates using List.reverseRecOn with
  | nil => rfl
  | append_singleton candidates new ih =>
    rw [hconcat, filter_merge hk, ih, List.filter_append]
    by_cases hn : keep new = true
    · rw [if_pos hn, List.filter_cons_of_pos hn, List.filter_nil, hconcat]
    · rw [if_neg hn, List.filter_cons_of_neg hn, List.filter_nil,
        List.append_nil]

/-- **Merging keeps the highest version of each locale.** Over any candidates,
taken in order: no locale is listed twice, the locales come in the order of
their first appearance, each is listed with the first of its candidates of the
greatest version, and every single merge keeps its candidate exactly if that
exceeds all earlier ones of its locale. -/
theorem ofCandidates_highest (candidates : List Record) :
    (ofCandidates candidates).locales.Nodup
      ∧ (ofCandidates candidates).locales
          = (candidates.map (·.locale)).eraseDups
      ∧ (∀ r ∈ ofCandidates candidates, r.IsBestOf candidates)
      ∧ ∀ before new after, candidates = before ++ new :: after →
          (keeps new (ofCandidates before)
            ↔ ∀ c ∈ before, c.locale = new.locale
                → c.version < new.version) := by
  have h := summarizes_ofCandidates candidates
  refine ⟨h.nodup, h.locales_eq, h.best, ?_⟩
  intro before new _ _
  exact (summarizes_ofCandidates before).keeps_iff new

end Listing

end Lexicon
