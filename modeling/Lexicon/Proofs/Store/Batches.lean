import Lexicon.Proofs.Store.Settling

/-!
# Batches on an initialised store

A store is initialised at a path if it can be opened and settled and a change of
it can be recorded; what was left beside it does not matter. Initialising makes
a store so (`exists_isInitialised`), and once more changes nothing. Reading it
gives its rows, by locale, and a batch of records is written to it or refused
just as its rows take it (`IsInitialised.upsertAt_spec`). So a batch is all or
nothing, and of several records with one identifier the last decides
(`upsertAt_lastWins`).
-/

namespace Lexicon.Store

variable {t : FileTree} {p : Path} {place : Place} {f : File} {rows : Store}

/-! ## Initialised stores -/

/-- **A store is initialised at a path**, with these rows: the path leads to a
file which, once what was left beside it is settled, is a store with the rows,
and whose name has room for that of a journal, as it needs to be given its table
in the first place. -/
def IsInitialised (t : FileTree) (p : Path) (rows : Store) : Prop :=
  ∃ place f t' f' recording, p.checkText = .ok () ∧ locate? t p = some place
    ∧ t.kind? place = some (.file f)
    ∧ settle t place f = (t', .ok (f', recording))
    ∧ f'.content = .store rows
    ∧ Path.isTooLong (Companion.journal.name place) = false

theorem IsSettledAt.isInitialised (h : IsSettledAt t p place f)
    (hf : f.content = .store rows) : IsInitialised t p rows :=
  ⟨place, f, t, f, .byJournal, h.checkText_eq, h.locate?_eq, h.kind?_eq,
    h.settle_eq hf, hf, h.journal_fits⟩

theorem IsReady.isInitialised (h : IsReady t p rows) :
    IsInitialised t p rows := by
  obtain ⟨place, f, h, hrows⟩ := h
  exact ⟨place, f, t, f, .byJournal, h.checkText_eq, h.locate?_eq, h.kind?_eq,
    h.settle_eq, hrows, h.journal_fits⟩

/-- Only the file of a store has rows. -/
theorem eq_store_of_rowsOf {content : Content} (h : rowsOf content = .ok rows) :
    content = .store rows := by
  cases content with
  | store rows' => exact congrArg Content.store (Except.ok.inj h)
  | _ => exact absurd h (by simp [rowsOf])

/-- Opening what is no free path opens the file that is there. -/
theorem openFile_of_not_isFreeAt (hfree : ¬ IsFreeAt t p) {o : Opened}
    (h : openFile t p = .ok o) :
    p.checkText = .ok () ∧ locate? t p = some o.place
      ∧ t.kind? o.place = some (.file o.file) ∧ o.tree = t := by
  unfold openFile at h
  rcases hc : p.checkText with e | ⟨⟨⟩⟩ <;> rw [hc] at h
  · exact absurd h (by simp)
  rcases hl : locate? t p with - | place <;> rw [hl] at h
  · exact absurd h (by simp)
  dsimp only at h
  rcases hf : t.lookup place with - | (f | es) <;> rw [hf] at h
  · refine absurd (fun q hq => ?_) hfree
    obtain rfl : place = q := Option.some.inj (hl.symm.trans hq)
    exact FileTree.kind?_eq_none_iff.2 hf
  · cases h
    exact ⟨rfl, rfl, FileTree.kind?_eq_file_iff.2 hf, rfl⟩
  · exact absurd h (by simp)

/-- **Initialising makes a store initialised**: a file that was given its table,
or had one, is such a store, if its path still leads to it and its name has room
for that of a journal. -/
theorem exists_isInitialised (hok : (initialise t p).value = .ok ())
    (hleads : (locate? (initialise t p).tree p).isSome)
    (hfits : ∀ place ∈ locate? t p,
      Path.isTooLong (Companion.journal.name place) = false) :
    ∃ rows, IsInitialised (initialise t p).tree p rows := by
  by_cases hfree : IsFreeAt t p
  · exact ⟨[], (isReady_initialise hfree hok hleads).isInitialised⟩
  have hchange : (change t p draftTable).2 = .ok () := hok
  show ∃ rows, IsInitialised (change t p draftTable).1 p rows
  unfold change look at hchange ⊢
  rcases ho : openFile t p with e | ⟨t₀, place, f⟩ <;> rw [ho] at hchange
  · exact absurd hchange (by simp)
  obtain ⟨hc, hl, hk, rfl⟩ := openFile_of_not_isFreeAt hfree ho
  dsimp only at hl hk hchange ⊢
  rcases hs : settle t₀ place f with ⟨t', e | ⟨f', recording⟩⟩ <;>
    rw [hs] at hchange
  · exact absurd hchange (by simp)
  dsimp only at hchange ⊢
  by_cases hblank : isBlank f'.content = true
  · have hdraft : draftTable f'.content = ⟨true, .ok []⟩ := if_pos hblank
    rw [hdraft] at hchange ⊢
    have hdir : t'.kind? (Companion.journal.place place) ≠ some .dir := by
      obtain rfl :=
        recording_of_settle (place_ne_nil_of_locate? hl) hk hs hblank
      unfold complete at hchange
      dsimp only at hchange
      rw [if_pos rfl] at hchange
      rcases hr : record t' place .byJournal with e | t₂ <;> rw [hr] at hchange
      · exact absurd hchange (by simp)
      · exact (record_eq_ok hr).2.1
    have hsettled := isSettledAt_of_settle hc hl hk hs (hfits place hl)
      fun _ => hdir
    obtain ⟨-, f'', hkept, hcontent⟩ :=
      hsettled.complete_spec recording ⟨true, .ok []⟩
    exact ⟨[], hkept.isInitialised hcontent⟩
  · have hdraft : draftTable f'.content = ⟨false, rowsOf f'.content⟩ :=
      if_neg hblank
    rw [hdraft] at hchange ⊢
    unfold complete at hchange ⊢
    rw [if_neg Bool.false_ne_true] at hchange ⊢
    obtain ⟨rows, hrows, -⟩ := map_eq_ok.1 hchange
    have hsettled := isSettledAt_of_settle hc hl hk hs (hfits place hl)
      fun hb => absurd hb hblank
    exact ⟨rows, hsettled.isInitialised (eq_store_of_rowsOf hrows)⟩

namespace IsInitialised

theorem exists_openFile (h : IsInitialised t p rows) :
    ∃ o, openFile t p = .ok o ∧ o.tree = t := by
  obtain ⟨place, f, -, -, -, hc, hl, hk, -⟩ := h
  exact ⟨⟨t, place, f⟩, openFile_of_locate? hc hl hk, rfl⟩

/-- **Looking into an initialised store** settles it and shows its rows. -/
theorem exists_look (h : IsInitialised t p rows) :
    ∃ t' place f recording, IsSettledAt t' p place f ∧ f.content = .store rows
      ∧ ∀ {α : Type} (next : Opened → Recording → FileTree × Except StoreError α),
        look t p next = next ⟨t', place, f⟩ recording := by
  obtain ⟨place, f, t', f', recording, hc, hl, hk, hs, hf, hfits⟩ := h
  have hblank : ¬ isBlank f'.content = true := by
    rw [hf]
    exact Bool.false_ne_true
  refine ⟨t', place, f', recording,
    isSettledAt_of_settle hc hl hk hs hfits fun hb => absurd hb hblank, hf,
    fun next => ?_⟩
  unfold look
  rw [openFile_of_locate? hc hl hk]
  dsimp only
  rw [hs]

/-- **The rows that are read** are those of the store, by locale. -/
theorem value_readAt (h : IsInitialised t p rows) :
    (readAt t p).value = sorted rows := by
  obtain ⟨t', place, f, recording, -, hf, hlook⟩ := h.exists_look
  unfold readAt
  rw [hlook]
  dsimp only
  rw [hf]
  rfl

/-- **Initialising an initialised store** changes none of its rows. -/
theorem initialise_spec (h : IsInitialised t p rows) :
    (initialise t p).value = .ok ()
      ∧ IsInitialised (initialise t p).tree p rows := by
  obtain ⟨t', place, f, recording, hsettled, hf, hlook⟩ := h.exists_look
  have hdraft : draftTable f.content = ⟨false, .ok rows⟩ := by rw [hf]; rfl
  obtain ⟨houtcome, f', hkept, hcontent⟩ :=
    hsettled.complete_spec recording (draftTable f.content)
  unfold initialise change
  rw [hlook]
  rw [hdraft] at hcontent
  refine ⟨?_, hkept.isInitialised (hcontent.trans hf)⟩
  dsimp only
  rw [houtcome, hdraft]
  rfl

/-- **A batch is written or refused** as the rows of the store take it, and the
store is initialised afterwards, with the new rows or the old ones. -/
theorem upsertAt_spec (h : IsInitialised t p rows) (records : List Record) :
    (upsertAt t p records).value
        = (rows.upsert records).map (fun _ => records.length)
      ∧ IsInitialised (upsertAt t p records).tree p
        ((rows.upsert records).toOption.getD rows) := by
  cases records with
  | nil =>
    obtain ⟨o, ho, htree⟩ := h.exists_openFile
    unfold upsertAt
    rw [List.isEmpty_nil, if_pos rfl, ho]
    exact ⟨rfl, htree ▸ h⟩
  | cons r rest =>
    obtain ⟨t', place, f, recording, hsettled, hf, hlook⟩ := h.exists_look
    obtain ⟨houtcome, f', hkept, hcontent⟩ :=
      hsettled.complete_spec recording (draftUpsert (r :: rest) f.content)
    have hstored : f'.content
        = .store ((rows.upsert (r :: rest)).toOption.getD rows) := by
      rw [hcontent, hf, draftUpsert_store]
      cases hu : rows.upsert (r :: rest) with
      | error e => exact ite_self _
      | ok rows' =>
        have hr : r.toRow.IsStorable :=
          (upsert_eq_ok_iff.1 hu).1 r List.mem_cons_self
        rw [checkRow_eq_ok_iff.2 hr]
        rfl
    unfold upsertAt change
    rw [List.isEmpty_cons, if_neg Bool.false_ne_true, hlook]
    refine ⟨?_, hkept.isInitialised hstored⟩
    dsimp only
    rw [houtcome, hf, draftUpsert_store]
    cases rows.upsert (r :: rest) <;> rfl

end IsInitialised

/-- **Batches are all or nothing, and the last record of an identifier wins.**
Let a store be initialised, with rows of which no two have one identifier, and
let a batch of records be written to it. Afterwards the store is initialised,
and what is read of it is each of its rows once, by locale. If every record can
be stored, the batch returns how many there are, and the row of an identifier is
that of the last record with it, or the row it was where no record has it. If
some record cannot be stored, the batch is refused and the rows are what they
were. So two batches in turn leave the same rows as both in one. -/
theorem upsertAt_lastWins (t : FileTree) (p : Path) (rows : Store)
    (records : List Record) (h : IsInitialised t p rows)
    (hkey : (ids rows).Nodup) :
    let batch := upsertAt t p records
    let read := (readAt batch.tree p).value
    (∃ rows', IsInitialised batch.tree p rows' ∧ (ids rows').Nodup
        ∧ read.Perm rows'
        ∧ read.Pairwise (fun a b => Text.le a.locale b.locale = true)
        ∧ ((∀ r ∈ records, r.toRow.IsStorable) →
          batch.value = .ok records.length
            ∧ ∀ id, rows'.row? id
              = ((records.reverse.find? (·.id = id)).map Record.toRow).or
                (rows.row? id))
        ∧ ((¬ ∀ r ∈ records, r.toRow.IsStorable) →
          (∃ e, batch.value = .error e) ∧ rows' = rows))
      ∧ ∀ more : List Record, (∀ r ∈ records ++ more, r.toRow.IsStorable) →
        (readAt (upsertAt batch.tree p more).tree p).value
          = (readAt (upsertAt t p (records ++ more)).tree p).value := by
  intro batch read
  obtain ⟨hvalue, hkept⟩ := h.upsertAt_spec records
  have hread : read = sorted ((rows.upsert records).toOption.getD rows) :=
    hkept.value_readAt
  refine ⟨⟨_, hkept, nodup_ids_upsert hkey records, ?_, ?_, ?_, ?_⟩, ?_⟩
  · rw [hread]
    exact sorted_perm _
  · rw [hread]
    exact pairwise_sorted _
  · intro hall
    have hu := upsert_eq_written hall rows
    refine ⟨by rw [hvalue, hu]; rfl, fun id => ?_⟩
    rw [hu, ← find?_reverse_map_toRow]
    exact row?_written rows _ id
  · intro hnot
    obtain ⟨e, hu⟩ := exists_upsert_eq_error hnot rows
    exact ⟨⟨e, by rw [hvalue, hu]; rfl⟩, by rw [hu]; rfl⟩
  · intro more hall
    obtain ⟨hrecords, hmore⟩ := List.forall_mem_append.1 hall
    rw [upsert_eq_written hrecords] at hkept
    have hsecond := (hkept.upsertAt_spec more).2
    have hboth := (h.upsertAt_spec (records ++ more)).2
    rw [upsert_eq_written hmore] at hsecond
    rw [upsert_eq_written hall, List.map_append, written_append] at hboth
    exact hsecond.value_readAt.trans hboth.value_readAt.symm

/-- A record of a French dictionary. -/
def french (version : Int) : Record where
  id := some (lit "main:fr")
  locale := ⟨lit "fr", [], [], []⟩
  description := none
  filename := none
  filesize := 0
  modified := 0
  version := version

/-- A store file of its own. -/
def frenchStore : Path := ⟨.relative, [lit "metadata.db"]⟩

/-- Of two records the second decides, and one that is too large keeps both out
of a store that was initialised twice. -/
theorem upsertAt_lastWins_sample :
    let once := (initialise (.dir []) frenchStore).tree
    let twice := (initialise once frenchStore).tree
    let batch := upsertAt twice frenchStore [french 4, french 1]
    let refused := upsertAt twice frenchStore [french 4, french (2 ^ 63)]
    IsInitialised twice frenchStore [] ∧ (ids []).Nodup
      ∧ batch.value = .ok 2
      ∧ (∃ rows, IsInitialised batch.tree frenchStore rows
        ∧ rows.row? (some (lit "main:fr")) = some (french 1).toRow)
      ∧ (∃ e, refused.value = .error e)
      ∧ IsInitialised refused.tree frenchStore [] := by
  intro once twice batch refused
  have honce : IsInitialised once frenchStore [] :=
    (isReady_initialise (by decide +kernel) (by decide +kernel)
      (by decide +kernel)).isInitialised
  have htwice := honce.initialise_spec.2
  obtain ⟨⟨rows, hrows, -, -, -, hok, -⟩, -⟩ :=
    upsertAt_lastWins twice frenchStore [] [french 4, french 1] htwice
      List.nodup_nil
  obtain ⟨⟨rows', hrows', -, -, -, -, hno⟩, -⟩ :=
    upsertAt_lastWins twice frenchStore [] [french 4, french (2 ^ 63)] htwice
      List.nodup_nil
  have hstorable : ∀ r ∈ [french 4, french 1], r.toRow.IsStorable := by
    simp only [List.forall_mem_cons, ← checkRow_eq_ok_iff]
    decide +kernel
  have hlarge : ¬ ∀ r ∈ [french 4, french (2 ^ 63)], r.toRow.IsStorable := by
    simp only [List.forall_mem_cons, ← checkRow_eq_ok_iff]
    decide +kernel
  obtain ⟨hvalue, hrow⟩ := hok hstorable
  obtain ⟨he, rfl⟩ := hno hlarge
  refine ⟨htwice, List.nodup_nil, hvalue, ⟨rows, hrows, ?_⟩, he, hrows'⟩
  rw [hrow]
  decide +kernel

end Lexicon.Store
