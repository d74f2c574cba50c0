import Lexicon.Proofs.FileTree.Changes
import Lexicon.Proofs.Store.Rows
import Lexicon.Store.File

/-!
# Operations on a store that is ready

A store is ready at a path if the path leads to a store file, nothing is left
over beside it, and a change could be recorded there. Then looking into it is
looking at its rows, and a batch of records is written to it, or refused and
the rows kept, just as `Store.upsert` says; in either case the store is ready
afterwards (`upsertAt_of_eq_ok`, `upsertAt_of_eq_error`). What the store does
to the tree is told by the view: only the store file itself and a journal
without contents may change, so the path still leads to the same place
(`locate?_of_view`).
-/

namespace Lexicon

namespace Store

variable {t t' : FileTree} {p : Path} {place : Place}

/-! ## Where a store is -/

/-- A way that can be spelled out can still be where the same directories stand
and nothing is new. -/
theorem isPassable_of_view (hd : t.KeepsDirs t')
    (hn : ∀ place, t.kind? place = none → t'.kind? place = none)
    {start : Place} {way : List Text} (h : isPassable t start way = true) :
    isPassable t' start way = true := by
  unfold isPassable at h ⊢
  rw [Bool.and_eq_true] at h ⊢
  refine h.imp_right fun hw => ?_
  cases ht : t.walk start way with
  | ok place =>
    rw [FileTree.walk_mono hd (fun _ he => absurd he (by simp)) ht]
  | error e =>
    rw [ht] at hw
    obtain rfl : e = .notFound := eq_of_beq hw
    rw [FileTree.walk_eq_notFound hd hn ht]
    rfl

/-- **A store is found where it was** as long as the same directories stand and
nothing is new. -/
theorem locate?_of_view (hd : t.KeepsDirs t')
    (hn : ∀ place, t.kind? place = none → t'.kind? place = none)
    (h : locate? t p = some place) : locate? t' p = some place := by
  have hspell : ∀ (names way : List Text) {way'},
      spell? t p.start way names = some way' →
        spell? t' p.start way names = some way' := by
    intro names
    induction names with
    | nil => exact fun _ _ hs => hs
    | cons name rest ih =>
      intro way way' hs
      unfold spell? at hs ⊢
      split
      · rename_i hdd
        rw [if_pos hdd] at hs
        exact ih _ hs
      · rename_i hdd
        rw [if_neg hdd] at hs
        split at hs
        · rename_i hpass
          rw [if_pos (isPassable_of_view hd hn hpass)]
          exact ih _ hs
        · exact absurd hs (by simp)
  unfold locate? at h ⊢
  obtain ⟨way, hway, h⟩ := Option.bind_eq_some_iff.1 h
  refine Option.bind_eq_some_iff.2 ⟨way, hspell _ _ hway, ?_⟩
  split at h
  · exact absurd h (by simp)
  · rename_i hok
    rw [if_neg hok]
    cases hw : t.walk p.start way with
    | error e =>
      rw [hw] at h
      exact absurd h (by simp [Except.toOption])
    | ok found =>
      rw [FileTree.walk_mono hd (fun _ he => absurd he (by simp)) hw, ← hw]
      exact h

theorem openFile_of_locate? (hc : p.checkText = .ok ())
    (hl : locate? t p = some place) {f : File}
    (hk : t.kind? place = some (.file f)) :
    openFile t p = .ok ⟨t, place, f⟩ := by
  unfold openFile
  rw [hc, hl]
  dsimp only
  rw [FileTree.kind?_eq_file_iff.1 hk]

/-- What is spelled out has no double dots. -/
theorem dotDot_not_mem_of_spell? {start : Place} {names way way' : List Text}
    (hw : Path.dotDot ∉ way) (h : spell? t start way names = some way') :
    Path.dotDot ∉ way' := by
  induction names generalizing way with
  | nil => exact Option.some.inj h ▸ hw
  | cons name rest ih =>
    unfold spell? at h
    split at h
    · exact ih (fun hm => hw (List.dropLast_subset way hm)) h
    · rename_i hdd
      split at h
      · refine ih (fun hm => ?_) h
        rcases List.mem_append.1 hm with hm | hm
        · exact hw hm
        · exact hdd (List.mem_singleton.1 hm).symm
      · exact absurd h (by simp)

/-- **A store is an entry of a directory.** -/
theorem exists_entry_of_locate? (h : locate? t p = some place) :
    ∃ outer name, place = outer ++ [name] ∧ t.kind? outer = some .dir := by
  unfold locate? at h
  obtain ⟨way, hway, h⟩ := Option.bind_eq_some_iff.1 h
  split at h
  · exact absurd h (by simp)
  rename_i hok
  obtain ⟨init, last, rfl⟩ := (List.eq_nil_or_concat' way).resolve_left
    fun hnil => hok (by simp [hnil])
  have hlast : last ≠ Path.dotDot := fun he =>
    dotDot_not_mem_of_spell? List.not_mem_nil hway (by simp [he])
  cases hw : t.walk p.start (init ++ [last]) with
  | error e =>
    rw [hw] at h
    exact absurd h (by simp [Except.toOption])
  | ok found =>
    rw [hw] at h
    obtain rfl : found = place := Option.some.inj h
    rw [FileTree.walk_append] at hw
    obtain ⟨outer, -, hw⟩ := bind_eq_ok.1 hw
    obtain ⟨hd, -, rfl⟩ := (FileTree.walk_singleton_eq_ok_iff hlast).1 hw
    exact ⟨outer, _, rfl, hd⟩

/-! ## Stores that are ready -/

/-- **A store file stands ready** at the place that a path leads to: nothing is
left over beside it, and a journal can be written there. -/
structure StandsAt (t : FileTree) (p : Path) (place : Place) (f : File) :
    Prop where
  /-- The path can be asked about. -/
  checkText_eq : p.checkText = .ok ()
  /-- It leads to the place. -/
  locate?_eq : locate? t p = some place
  /-- There is the file. -/
  kind?_eq : t.kind? place = some (.file f)
  /-- No journal is left over. -/
  no_journal : Companion.journal.found? t place = none
  /-- No log is left over. -/
  no_log : Companion.log.found? t place = none
  /-- The name of a journal fits. -/
  journal_fits : Path.isTooLong (Companion.journal.name place) = false

/-- **A store is ready at a path**, with these rows. -/
def IsReady (t : FileTree) (p : Path) (rows : Store) : Prop :=
  ∃ place f, StandsAt t p place f ∧ f.content = .store rows

/-- Beside a place no companion is found exactly if what stands there is at
most a plain file without contents. -/
theorem found?_eq_none_iff {c : Companion} :
    c.found? t place = none
      ↔ ∀ k, t.kind? (c.place place) = some k →
        ∃ f : File, k = .file f ∧ f.content = .bytes [] := by
  unfold Companion.found? FileTree.kind?
  rcases t.lookup (c.place place) with - | (f | es)
  · simp
  · simp [Option.filter, FileTree.topKind]
  · simp [Option.filter, FileTree.topKind]

/-- **What stands where after a companion was removed.** A directory in its
place stays. -/
theorem kind?_remove_companion (c : Companion) (t : FileTree)
    (place q : Place) :
    (c.remove t place).kind? q
      = if q = c.place place ∧ t.kind? q ≠ some .dir then none
        else t.kind? q := by
  unfold Companion.remove
  rcases hc : t.lookup (c.place place) with - | (g | es)
  · dsimp only
    split
    · rename_i he
      rw [he.1, FileTree.kind?_eq_none_iff, hc]
    · rfl
  · have hfile := FileTree.kind?_eq_file_iff.2 hc
    have hne : c.place place ≠ [] :=
      List.append_ne_nil_of_right_ne_nil _ (List.cons_ne_nil _ _)
    show (t.remove (c.place place)).kind? q = _
    rw [FileTree.kind?_remove_file hfile hne]
    refine if_congr (and_iff_left_of_imp ?_).symm rfl rfl
    rintro rfl
    rw [hfile]
    simp
  · have hdir := FileTree.kind?_eq_dir_iff.2 ⟨es, hc⟩
    exact (if_neg fun h => h.2 (h.1 ▸ hdir)).symm

/-- **What stands where after a plain file was put over another.** -/
theorem kind?_put_over {outer : Place} {name : Text} {f : File}
    (h : t.kind? (outer ++ [name]) = some (.file f)) (f' : File) (q : Place) :
    (t.put (outer ++ [name]) (.file f')).kind? q
      = if q = outer ++ [name] then some (.file f') else t.kind? q := by
  obtain ⟨es, hes⟩ := FileTree.kind?_eq_dir_iff.1
    (FileTree.kind?_above (List.cons_ne_nil _ _) h)
  exact FileTree.kind?_put_file hes (by rw [h]; simp) f' q

/-- A companion does not stand in the place of its store. -/
theorem place_companion_ne (c : Companion) (hp : place ≠ []) :
    c.place place ≠ place := by
  obtain ⟨outer, name, rfl⟩ :=
    (List.eq_nil_or_concat' place).resolve_left hp
  unfold Companion.place Companion.name
  rw [List.dropLast_concat, List.getLast?_append, List.getLast?_singleton]
  intro h
  have hname : name ++ c.ending = name :=
    List.singleton_injective (List.append_cancel_left h)
  have hending : c.ending = [] := List.append_right_eq_self.1 hname
  cases c <;> exact absurd hending (by decide)

namespace StandsAt

variable {f : File}

theorem openFile_eq (h : StandsAt t p place f) :
    openFile t p = .ok ⟨t, place, f⟩ :=
  openFile_of_locate? h.checkText_eq h.locate?_eq h.kind?_eq

theorem settle_eq (h : StandsAt t p place f) :
    settle t place f = (t, .ok (f, .byJournal)) := by
  unfold settle settleJournal settleLog
  simp only [h.no_journal, h.no_log]
  rfl

/-- **Looking into a store that stands ready** is looking at its file. -/
theorem look_eq (h : StandsAt t p place f) {α : Type}
    (next : Opened → Recording → FileTree × Except StoreError α) :
    look t p next = next ⟨t, place, f⟩ .byJournal := by
  unfold look
  rw [h.openFile_eq]
  dsimp only
  rw [h.settle_eq]

theorem journal_ne_dir (h : StandsAt t p place f) :
    t.kind? (Companion.journal.place place) ≠ some .dir := by
  intro hd
  obtain ⟨_, hf, -⟩ := found?_eq_none_iff.1 h.no_journal _ hd
  exact absurd hf (by simp)

/-- Recording a change can only take a journal without contents away. -/
theorem record_eq (h : StandsAt t p place f) :
    record t place .byJournal = .ok (Companion.journal.remove t place) := by
  have hdir : (t.lookup (Companion.journal.place place)).any FileTree.isDir
      = false := by
    rcases hj : t.lookup (Companion.journal.place place) with - | (g | es)
    · rfl
    · rfl
    · exact absurd (FileTree.kind?_eq_dir_iff.2 ⟨es, hj⟩) h.journal_ne_dir
  unfold record
  rw [h.journal_fits, hdir]
  rfl

/-- What stands where after the journal was taken away. -/
theorem kind?_remove_journal (h : StandsAt t p place f) (q : Place) :
    (Companion.journal.remove t place).kind? q
      = if q = Companion.journal.place place then none else t.kind? q := by
  rw [kind?_remove_companion]
  refine if_congr (and_iff_left_of_imp ?_) rfl rfl
  rintro rfl
  exact h.journal_ne_dir

theorem place_ne_nil (h : StandsAt t p place f) : place ≠ [] := by
  obtain ⟨outer, name, rfl, -⟩ := exists_entry_of_locate? h.locate?_eq
  exact List.append_ne_nil_of_right_ne_nil _ (List.cons_ne_nil _ _)

/-- What stands where after the store was written anew. -/
theorem kind?_put (h : StandsAt t p place f) (f' : File) (q : Place) :
    ((Companion.journal.remove t place).put place (.file f')).kind? q
      = if q = place then some (.file f')
        else if q = Companion.journal.place place then none
        else t.kind? q := by
  have hne := place_companion_ne .journal h.place_ne_nil
  have hkind := h.kind?_remove_journal place
  rw [if_neg hne.symm, h.kind?_eq] at hkind
  obtain ⟨outer, name, rfl, -⟩ := exists_entry_of_locate? h.locate?_eq
  rw [kind?_put_over hkind, h.kind?_remove_journal]

/-- **A store stands ready again** after nothing changed but its contents and a
journal that was taken away. -/
theorem of_view (h : StandsAt t p place f) {f' : File}
    (hview : ∀ q, t'.kind? q = if q = place then some (.file f')
      else if q = Companion.journal.place place then none else t.kind? q) :
    StandsAt t' p place f' where
  checkText_eq := h.checkText_eq
  locate?_eq := by
    refine locate?_of_view (fun q hq => ?_) (fun q hq => ?_) h.locate?_eq
    · have hplace : q ≠ place := by
        rintro rfl
        rw [h.kind?_eq] at hq
        exact absurd hq (by simp)
      have hjournal : q ≠ Companion.journal.place place := by
        rintro rfl
        exact h.journal_ne_dir hq
      rw [hview, if_neg hplace, if_neg hjournal, hq]
    · have hplace : q ≠ place := by
        rintro rfl
        rw [h.kind?_eq] at hq
        exact absurd hq (by simp)
      rw [hview, if_neg hplace, hq, ite_self]
  kind?_eq := by rw [hview, if_pos rfl]
  no_journal := by
    refine found?_eq_none_iff.2 fun k hk => ?_
    rw [hview, if_neg (place_companion_ne .journal h.place_ne_nil), if_pos rfl]
      at hk
    exact absurd hk (by simp)
  no_log := by
    refine found?_eq_none_iff.2 fun k hk => ?_
    rw [hview, if_neg (place_companion_ne .log h.place_ne_nil)] at hk
    split at hk
    · exact absurd hk (by simp)
    · exact found?_eq_none_iff.1 h.no_log k hk
  journal_fits := h.journal_fits

/-- **A draft is carried out** on a store that stands ready. -/
theorem complete_eq (h : StandsAt t p place f) (draft : Draft) :
    complete ⟨t, place, f⟩ .byJournal draft
      = match draft with
        | ⟨false, rows⟩ => (t, rows.map fun _ => ())
        | ⟨true, .error e⟩ => (Companion.journal.remove t place, .error e)
        | ⟨true, .ok rows⟩ => ((Companion.journal.remove t place).put place
            (.file { f with content := .store rows }), .ok ()) := by
  unfold complete
  rw [h.record_eq]
  rcases draft with ⟨- | -, e | rows⟩ <;> rfl

end StandsAt

theorem draftUpsert_store (r : Record) (rest : List Record) (rows : Store) :
    draftUpsert (r :: rest) (.store rows)
      = ⟨(checkRow r.toRow).toOption.isSome, rows.upsert (r :: rest)⟩ :=
  rfl

/-! ## Operations -/

/-- **The rows that are read** from a store that is ready are its own, by
locale. -/
theorem value_readAt {rows : Store} (h : IsReady t p rows) :
    (readAt t p).value = sorted rows := by
  obtain ⟨place, f, h, hrows⟩ := h
  unfold readAt
  rw [h.look_eq]
  dsimp only
  rw [hrows]
  rfl

/-- **A batch that can be written** leaves the store ready with its rows. -/
theorem upsertAt_of_eq_ok {rows rows' : Store} {records : List Record}
    (h : IsReady t p rows) (hu : rows.upsert records = .ok rows') :
    (upsertAt t p records).value = .ok records.length
      ∧ IsReady (upsertAt t p records).tree p rows' := by
  obtain ⟨place, f, h, hrows⟩ := h
  unfold upsertAt
  cases records with
  | nil =>
    obtain rfl : rows = rows' := Except.ok.inj hu
    rw [List.isEmpty_nil, if_pos rfl, h.openFile_eq]
    exact ⟨rfl, place, f, h, hrows⟩
  | cons r rest =>
    have hr : r.toRow.IsStorable := (upsert_eq_ok_iff.1 hu).1 r List.mem_cons_self
    unfold change
    rw [List.isEmpty_cons, if_neg Bool.false_ne_true, h.look_eq]
    dsimp only
    rw [hrows, draftUpsert_store, hu, checkRow_eq_ok_iff.2 hr, h.complete_eq]
    exact ⟨rfl, place, _, h.of_view (h.kind?_put _), rfl⟩

/-- **A batch that is refused** leaves the store ready with the rows it had. -/
theorem upsertAt_of_eq_error {rows : Store} {records : List Record}
    {e : StoreError} (h : IsReady t p rows)
    (hu : rows.upsert records = .error e) :
    (upsertAt t p records).value = .error e
      ∧ IsReady (upsertAt t p records).tree p rows := by
  obtain ⟨place, f, h, hrows⟩ := h
  unfold upsertAt
  cases records with
  | nil => exact absurd hu (by simp [upsert])
  | cons r rest =>
    unfold change
    rw [List.isEmpty_cons, if_neg Bool.false_ne_true, h.look_eq]
    dsimp only
    rw [hrows, draftUpsert_store, hu, h.complete_eq]
    cases (checkRow r.toRow).toOption.isSome with
    | false => exact ⟨rfl, place, f, h, hrows⟩
    | true =>
      -- the first row could be written, so a journal was begun and given up
      refine ⟨rfl, place, f, h.of_view fun q => ?_, hrows⟩
      show (Companion.journal.remove t place).kind? q = _
      rw [h.kind?_remove_journal]
      by_cases hq : q = place
      · rw [hq, if_neg (place_companion_ne .journal h.place_ne_nil).symm,
          if_pos rfl, h.kind?_eq]
      · rw [if_neg hq]

theorem exists_of_upsertAt_eq_ok {rows : Store} {records : List Record} {n : Nat}
    (h : IsReady t p rows) (hn : (upsertAt t p records).value = .ok n) :
    ∃ rows', rows.upsert records = .ok rows' := by
  cases hu : rows.upsert records with
  | ok rows' => exact ⟨rows', rfl⟩
  | error e =>
    rw [(upsertAt_of_eq_error h hu).1] at hn
    exact absurd hn (by simp)

end Store

end Lexicon
