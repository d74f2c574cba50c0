import Lexicon.Proofs.Store.Initialisation

/-!
# Settling what is left beside a store

A store may be found with files beside it that a change or a crash has left: a
journal, a log and its index. Settling them undoes what a journal says and takes
a log away, so at most a finished journal stays, which needs no attention
(`isSettledAt_of_settle`). All that happens to the tree is that the file of the
store is written anew and plain files beside it go (`Rewrites`), and the store
is still found at the end of its path. Beside a settled store a change can be
recorded, so a draft is carried out unless it is refused, and the store stays
settled (`IsSettledAt.complete_spec`).
-/

namespace Lexicon.Store

variable {t t' : FileTree} {p : Path} {place : Place} {f f' : File}
  {rows : Store} {recording : Recording}

/-! ## Files written anew -/

/-- **A tree in which a file was written anew**: it holds the new contents, and
nothing else has changed but that plain files may be gone. -/
structure Rewrites (t t' : FileTree) (place : Place) (f : File) : Prop where
  /-- There is the file. -/
  kind?_self : t'.kind? place = some (.file f)
  /-- Elsewhere stands what stood there, unless it was a file and is gone. -/
  kind?_other : ∀ q, q ≠ place →
    t'.kind? q = t.kind? q ∨ (t'.kind? q = none ∧ t.kind? q ≠ some .dir)

namespace Rewrites

theorem refl (h : t.kind? place = some (.file f)) : Rewrites t t place f where
  kind?_self := h
  kind?_other _ _ := Or.inl rfl

/-- Removing a companion of the file. -/
theorem remove (h : Rewrites t t' place f) (hp : place ≠ [])
    (c : Companion) : Rewrites t (c.remove t' place) place f where
  kind?_self := by
    rw [kind?_remove_companion,
      if_neg fun hq => place_companion_ne c hp hq.1.symm, h.kind?_self]
  kind?_other q hq := by
    rw [kind?_remove_companion]
    split
    · rename_i hc
      obtain he | ⟨-, hne⟩ := h.kind?_other q hq
      · exact Or.inr ⟨rfl, he ▸ hc.2⟩
      · exact Or.inr ⟨rfl, hne⟩
    · exact h.kind?_other q hq

theorem put (h : Rewrites t t' place f) (hp : place ≠ []) (f' : File) :
    Rewrites t (t'.put place (.file f')) place f' := by
  obtain ⟨outer, name, rfl⟩ := (List.eq_nil_or_concat' place).resolve_left hp
  have hput := kind?_put_over h.kind?_self f'
  refine ⟨by rw [hput, if_pos rfl], fun q hq => ?_⟩
  rw [hput, if_neg hq]
  exact h.kind?_other q hq

/-- **A store is found where it was** after its file was written anew. -/
theorem locate?_eq (h : Rewrites t t' place f')
    (hk : t.kind? place = some (.file f)) (hl : locate? t p = some place) :
    locate? t' p = some place := by
  have hne : ∀ q, t.kind? q ≠ some (.file f) → q ≠ place :=
    fun q hq he => hq (he ▸ hk)
  refine locate?_of_view (fun q hq => ?_) (fun q hq => ?_) hl
  · obtain he | ⟨-, hdir⟩ := h.kind?_other q (hne q (by simp [hq]))
    · rw [he, hq]
    · exact absurd hq hdir
  · obtain he | ⟨he, -⟩ := h.kind?_other q (hne q (by simp [hq]))
    · rw [he, hq]
    · exact he

end Rewrites

/-! ## Settled stores -/

/-- Whether what stands in the place of a journal needs no attention: nothing,
a file without contents, or a journal that says that it is finished. -/
def IsJournalDone (t : FileTree) (place : Place) : Prop :=
  ∀ k, t.kind? (Companion.journal.place place) = some k →
    ∃ j : File, k = .file j
      ∧ (j.content = .bytes [] ∨ Journal.isUnfinished j.content.toBytes = false)

/-- **A store file stands at a place with nothing left to settle.** -/
structure IsSettledAt (t : FileTree) (p : Path) (place : Place) (f : File) :
    Prop where
  /-- The path can be asked about. -/
  checkText_eq : p.checkText = .ok ()
  /-- It leads to the place. -/
  locate?_eq : locate? t p = some place
  /-- There is the file. -/
  kind?_eq : t.kind? place = some (.file f)
  /-- No change is to be undone. -/
  journal_done : IsJournalDone t place
  /-- No log is left over. -/
  no_log : Companion.log.found? t place = none
  /-- The name of a journal fits. -/
  journal_fits : Path.isTooLong (Companion.journal.name place) = false

theorem place_ne_nil_of_locate? (h : locate? t p = some place) : place ≠ [] := by
  obtain ⟨outer, name, rfl, -⟩ := exists_entry_of_locate? h
  exact List.append_ne_nil_of_right_ne_nil _ (List.cons_ne_nil _ _)

/-- A journal that needs no attention needs none after the store was written
anew. -/
theorem IsJournalDone.of_rewrites (h : IsJournalDone t place) (hp : place ≠ [])
    (hw : Rewrites t t' place f) : IsJournalDone t' place := by
  intro k hk
  obtain he | ⟨hn, -⟩ := hw.kind?_other _ (place_companion_ne .journal hp)
  · exact h k (he ▸ hk)
  · rw [hn] at hk
    exact absurd hk (by simp)

/-- A companion that is not found is not found after the store was written
anew. -/
theorem Rewrites.found?_eq_none (h : Rewrites t t' place f) (hp : place ≠ [])
    {c : Companion} (hc : c.found? t place = none) : c.found? t' place = none := by
  rw [found?_eq_none_iff] at hc ⊢
  intro k hk
  obtain he | ⟨hn, -⟩ := h.kind?_other _ (place_companion_ne c hp)
  · exact hc k (he ▸ hk)
  · rw [hn] at hk
    exact absurd hk (by simp)

/-- A companion that is found stands there, and if it is a plain file it has
contents. -/
theorem kind?_of_found? {c : Companion} {k : FileTree}
    (h : c.found? t place = some k) :
    t.kind? (c.place place) = some k.topKind
      ∧ ∀ j, k = .file j → j.content ≠ .bytes [] := by
  obtain ⟨hl, hk⟩ := Option.filter_eq_some_iff.1 h
  refine ⟨by rw [FileTree.kind?, hl, Option.map_some], ?_⟩
  rintro j rfl
  simpa using hk

/-- A finished journal is left where it is. -/
theorem settleJournal_eq (h : IsJournalDone t place)
    (hb : isBlank f.content = false) : settleJournal t place f = (t, .ok f) := by
  unfold settleJournal
  cases hj : Companion.journal.found? t place with
  | none => rfl
  | some k =>
    obtain ⟨hkind, hfull⟩ := kind?_of_found? hj
    obtain ⟨j, hkj, hdone⟩ := h _ hkind
    cases k with
    | dir es => exact absurd hkj (by simp [FileTree.topKind])
    | file g =>
      obtain rfl : g = j := by simpa [FileTree.topKind] using hkj
      dsimp only
      rw [hb, hdone.resolve_left (hfull g rfl)]
      rfl

namespace IsSettledAt

/-- **A store stays settled** when it is written anew. -/
theorem of_rewrites (h : IsSettledAt t p place f) (hw : Rewrites t t' place f') :
    IsSettledAt t' p place f' where
  checkText_eq := h.checkText_eq
  locate?_eq := hw.locate?_eq h.kind?_eq h.locate?_eq
  kind?_eq := hw.kind?_self
  journal_done :=
    h.journal_done.of_rewrites (place_ne_nil_of_locate? h.locate?_eq) hw
  no_log := hw.found?_eq_none (place_ne_nil_of_locate? h.locate?_eq) h.no_log
  journal_fits := h.journal_fits

theorem settle_eq (h : IsSettledAt t p place f) (hf : f.content = .store rows) :
    settle t place f = (t, .ok (f, .byJournal)) := by
  have hblank : isBlank f.content = false := by rw [hf]; rfl
  unfold settle settleLog
  rw [settleJournal_eq h.journal_done hblank]
  simp only [h.no_log]
  rfl

end IsSettledAt

/-- **Settling a journal** leaves the file, or what it was before an unfinished
change, and no journal that needs attention. Only beside a blank file a
directory in its place does not matter. -/
theorem settleJournal_eq_ok (hp : place ≠ [])
    (hk : t.kind? place = some (.file f))
    (h : settleJournal t place f = (t', .ok f')) :
    Rewrites t t' place f'
      ∧ (IsJournalDone t' place
        ∨ (isBlank f'.content = true
          ∧ t'.kind? (Companion.journal.place place) = some .dir)) := by
  have hself := Rewrites.refl hk
  unfold settleJournal at h
  cases hj : Companion.journal.found? t place with
  | none =>
    rw [hj] at h
    cases h
    refine ⟨hself, Or.inl fun k hkind => ?_⟩
    obtain ⟨j, rfl, hempty⟩ := found?_eq_none_iff.1 hj k hkind
    exact ⟨j, rfl, Or.inl hempty⟩
  | some k =>
    rw [hj] at h
    obtain ⟨hkind, -⟩ := kind?_of_found? hj
    cases k with
    | dir es =>
      dsimp only at h
      split at h
      · rename_i hb
        cases h
        exact ⟨hself, Or.inr ⟨hb, hkind⟩⟩
      · exact absurd (Prod.mk.inj h).2 (by simp)
    | file j =>
      have hcleared := hself.remove hp .journal
      have hnone : IsJournalDone (Companion.journal.remove t place) place := by
        intro k hk'
        rw [kind?_remove_companion, if_pos ⟨rfl, kind?_ne_dir_of_found? hj⟩]
          at hk'
        exact absurd hk' (by simp)
      dsimp only at h
      split at h
      · cases h
        exact ⟨hcleared, Or.inl hnone⟩
      split at h
      · cases h
        have hput := (Rewrites.refl hcleared.kind?_self).put hp
        exact ⟨hcleared.put hp _, Or.inl (hnone.of_rewrites hp (hput _))⟩
      · rename_i hfinished
        cases h
        refine ⟨hself, Or.inl fun k hk' => ?_⟩
        rw [hkind] at hk'
        exact ⟨j, (Option.some.inj hk').symm, Or.inr (by simpa using hfinished)⟩

/-- **Settling a log** takes it away, and leaves the file of the store as it
is. Changes of a blank file are recorded by a journal. -/
theorem settleLog_eq_ok {blank : Bool} (hp : place ≠ [])
    (hk : t.kind? place = some (.file f))
    (h : settleLog t place blank = (t', .ok recording)) :
    Rewrites t t' place f ∧ Companion.log.found? t' place = none
      ∧ (blank = true → recording = .byJournal) := by
  unfold settleLog at h
  rcases hl : Companion.log.found? t place with - | (g | es) <;> rw [hl] at h
  · cases h
    exact ⟨.refl hk, hl, fun _ => rfl⟩
  · have hlog : Rewrites t (Companion.log.remove t place) place f :=
      (Rewrites.refl hk).remove hp .log
    have hgone := found?_remove (kind?_ne_dir_of_found? hl)
    cases blank with
    | true =>
      cases h
      exact ⟨hlog, hgone, fun _ => rfl⟩
    | false =>
      cases h
      have hindex := (Rewrites.refl hlog.kind?_self).remove hp .index
      exact ⟨hlog.remove hp _, hindex.found?_eq_none hp hgone, by simp⟩
  · exact absurd h (by simp)

/-- Settling is settling the journal and then the log. -/
theorem exists_of_settle (h : settle t place f = (t', .ok (f', recording))) :
    ∃ t₁, settleJournal t place f = (t₁, .ok f')
      ∧ settleLog t₁ place (isBlank f'.content) = (t', .ok recording) := by
  unfold settle at h
  rcases hj : settleJournal t place f with ⟨t₁, e | f₁⟩ <;> rw [hj] at h
  · exact absurd (Prod.mk.inj h).2 (by simp)
  dsimp only at h
  rcases hlog : settleLog t₁ place (isBlank f₁.content) with ⟨t₂, e | r⟩ <;>
    rw [hlog] at h
  · exact absurd (Prod.mk.inj h).2 (by simp [Except.map])
  cases h
  exact ⟨t₁, rfl, hlog⟩

/-- **What settling leaves**: a settled store, unless the file is blank and a
directory stands in the place of its journal. -/
theorem isSettledAt_of_settle (hc : p.checkText = .ok ())
    (hl : locate? t p = some place) (hk : t.kind? place = some (.file f))
    (hs : settle t place f = (t', .ok (f', recording)))
    (hfits : Path.isTooLong (Companion.journal.name place) = false)
    (hdir : isBlank f'.content = true →
      t'.kind? (Companion.journal.place place) ≠ some .dir) :
    IsSettledAt t' p place f' := by
  have hp := place_ne_nil_of_locate? hl
  obtain ⟨t₁, hj, hlog⟩ := exists_of_settle hs
  obtain ⟨hrewrites, hjournal⟩ := settleJournal_eq_ok hp hk hj
  obtain ⟨hlost, hno, -⟩ := settleLog_eq_ok hp hrewrites.kind?_self hlog
  have hdone : IsJournalDone t₁ place := by
    refine hjournal.resolve_right fun ⟨hb, hd⟩ => hdir hb ?_
    obtain he | ⟨-, hne⟩ := hlost.kind?_other _ (place_companion_ne .journal hp)
    · rw [he, hd]
    · exact absurd hd hne
  exact ⟨hc, hlost.locate?_eq hrewrites.kind?_self (hrewrites.locate?_eq hk hl),
    hlost.kind?_self, hdone.of_rewrites hp hlost, hno, hfits⟩

/-- Changes of a blank store are recorded by a journal. -/
theorem recording_of_settle (hp : place ≠ [])
    (hk : t.kind? place = some (.file f))
    (hs : settle t place f = (t', .ok (f', recording)))
    (hb : isBlank f'.content = true) : recording = .byJournal := by
  obtain ⟨t₁, hj, hlog⟩ := exists_of_settle hs
  have hself := (settleJournal_eq_ok hp hk hj).1.kind?_self
  exact (settleLog_eq_ok hp hself hlog).2.2 hb

namespace IsSettledAt

/-- **A change can be recorded** beside a settled store. -/
theorem exists_record_eq_ok (h : IsSettledAt t p place f)
    (recording : Recording) :
    ∃ t', record t place recording = .ok t' ∧ Rewrites t t' place f := by
  have hself := Rewrites.refl h.kind?_eq
  cases recording with
  | byLog => exact ⟨t, rfl, hself⟩
  | byJournal =>
    have hdir : (t.lookup (Companion.journal.place place)).any FileTree.isDir
        = false := by
      rcases hj : t.lookup (Companion.journal.place place) with - | (j | es)
      · rfl
      · rfl
      · obtain ⟨j, hkj, -⟩ :=
          h.journal_done _ (FileTree.kind?_eq_dir_iff.2 ⟨es, hj⟩)
        exact absurd hkj (by simp)
    refine ⟨Companion.journal.remove t place, ?_,
      hself.remove (place_ne_nil_of_locate? h.locate?_eq) .journal⟩
    unfold record
    dsimp only
    rw [h.journal_fits, hdir]
    rfl

/-- **A draft is carried out** on a settled store, unless it is refused, and
the store stays settled. -/
theorem complete_spec (h : IsSettledAt t p place f) (recording : Recording)
    (draft : Draft) :
    let result := complete ⟨t, place, f⟩ recording draft
    result.2 = draft.rows.map (fun _ => ())
      ∧ ∃ f', IsSettledAt result.1 p place f'
        ∧ f'.content = if draft.touched then
            (draft.rows.toOption.map Content.store).getD f.content
          else f.content := by
  obtain ⟨t₁, hrecord, hrewrites⟩ := h.exists_record_eq_ok recording
  have hp := place_ne_nil_of_locate? h.locate?_eq
  unfold complete
  dsimp only
  rw [hrecord]
  obtain ⟨touched, e | rows⟩ := draft <;> cases touched
  · exact ⟨rfl, f, h, rfl⟩
  · exact ⟨rfl, f, h.of_rewrites hrewrites, rfl⟩
  · exact ⟨rfl, f, h, rfl⟩
  · exact ⟨rfl, _, h.of_rewrites (hrewrites.put hp _), rfl⟩

end IsSettledAt

end Lexicon.Store
