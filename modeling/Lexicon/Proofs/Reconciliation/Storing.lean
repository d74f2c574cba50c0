import Mathlib.Data.List.Nodup
import Lexicon.Command
import Lexicon.Header.Writer
import Lexicon.Proofs.Reconciliation.Origin
import Lexicon.Proofs.Store.Initialisation

/-!
# What of a listing reaches the store

A listing has one record for each locale, and a store one row for each
identifier. Nothing of a listing is lost in a store exactly if its identifiers
are distinct, and where the cache names its dictionaries as it should, that is
so exactly if no two listed locales differ in nothing but the case of letters
(`reconcile_stored_iff`).

A store takes every record of a listing but one that holds a surrogate or a
number beyond 64 bits. A single such record keeps all others out of the store,
and the command that stores listings ends with it
(`reconcile_writable_iff`).
-/

namespace Lexicon

/-- **Whether the store takes a record of a listing**: its texts hold no
surrogate, and its numbers do not exceed 64 bits. -/
def Record.IsWritable (r : Record) : Prop :=
  (∀ t ∈ r.toRow.texts, ∀ c ∈ t, c.isSurrogate = false)
    ∧ r.version < 2 ^ 63 ∧ r.filesize < 2 ^ 63
    ∧ isInt64 (r.modified.fdiv 1000) = true

/-- A number that is not below −1 fits into 64 bits exactly if it does not
exceed them. -/
theorem isInt64_eq_true_iff {i : Int} (hi : -1 ≤ i) :
    isInt64 i = true ↔ i < 2 ^ 63 := by
  unfold isInt64
  rw [Bool.and_eq_true, decide_eq_true_eq, decide_eq_true_eq]
  omega

namespace Sources

variable {s : Sources} {v : Volume} {r : Record}

/-! ## Identifiers and locales -/

/-- **A cache whose dictionaries have the identifiers of their locales**: each
that tells a version and belongs to the locale of its directory is named as the
main dictionary of that locale. How the other files are named does not
matter. -/
def IsNamedByLocale (s : Sources) (v : Volume) : Prop :=
  ∀ id l, s.IsInCache v id l → id = WordListId.ofMain l

/-- Where the cache names its dictionaries so, every record of a listing has
the identifier of its locale. -/
theorem id_eq_of_isNamedByLocale (hn : s.IsNamedByLocale v)
    (h : r ∈ (s.reconcile v).value) :
    r.id = some (WordListId.ofMain r.locale) := by
  obtain hid | ⟨id, hid, hcache⟩ := (origin_of_mem_reconcile h).identified
  · exact hid
  · rw [hid, hn id r.locale hcache]

@[simp] theorem ofMain_inj {l l' : Locale} :
    WordListId.ofMain l = WordListId.ofMain l'
      ↔ l.toText.lower = l'.toText.lower := by
  unfold WordListId.ofMain WordListId.toText
  rw [List.append_cancel_left_eq, List.cons.injEq, and_iff_right rfl]

/-- **Whether identifiers are distinct is read off the locales** where the
cache names its dictionaries after them. -/
theorem nodup_ids_iff (hn : s.IsNamedByLocale v) :
    ((s.reconcile v).value.map Record.id).Nodup
      ↔ ∀ l ∈ (s.reconcile v).value.locales,
          ∀ l' ∈ (s.reconcile v).value.locales,
            l.toText.lower = l'.toText.lower → l = l' := by
  have hids : (s.reconcile v).value.map Record.id
      = (s.reconcile v).value.locales.map
        fun l => some (WordListId.ofMain l) := by
    unfold Listing.locales
    rw [List.map_map]
    exact List.map_congr_left fun r hr => id_eq_of_isNamedByLocale hn hr
  rw [hids, List.nodup_map_iff_inj_on (nodup_locales_reconcile s v)]
  simp only [Option.some.injEq, ofMain_inj]

/-! ## Stored listings -/

/-- **A stored listing has lost nothing exactly if its identifiers are
distinct.** Whatever its sources and what is denied on their volume, let a
listing be written to a store that was initialised on a free path. Then the
store holds one row for each record, and as many rows as there are records,
exactly if no two records have one identifier. Where the cache names its main
dictionaries after their locales, that is so exactly if no two listed locales
agree but for the case of letters. -/
theorem reconcile_stored_iff (s : Sources) (v : Volume) (t : FileTree)
    (p : Path) (n : Nat) (hfree : Store.IsFreeAt t p)
    (hinit : (Store.initialise t p).value = .ok ())
    (hn : (Store.upsertAt (Store.initialise t p).tree p
      (s.reconcile v).value).value = .ok n) :
    let records := (s.reconcile v).value
    let stored := (Store.readAt (Store.upsertAt (Store.initialise t p).tree p
      records).tree p).value
    (stored.Perm (records.map Record.toRow) ↔ (records.map Record.id).Nodup)
      ∧ (stored.length = records.length ↔ (records.map Record.id).Nodup)
      ∧ (s.IsNamedByLocale v →
        ((records.map Record.id).Nodup
          ↔ ∀ l ∈ records.locales, ∀ l' ∈ records.locales,
            l.toText.lower = l'.toText.lower → l = l')) := by
  intro records stored
  have hready : Store.IsReady (Store.initialise t p).tree p [] :=
    Store.isReady_initialise hfree hinit (Store.isSome_locate?_of_upsertAt hn)
  obtain ⟨rows, hrows⟩ := Store.exists_of_upsertAt_eq_ok hready hn
  have hids : Store.ids (records.map Record.toRow) = records.map Record.id := by
    unfold Store.ids
    rw [List.map_map]
    rfl
  have hstored : stored.Perm
      (Store.written [] (records.map Record.toRow)) := by
    have hvalue := Store.value_readAt (Store.upsertAt_of_eq_ok hready hrows).2
    rw [← (Store.upsert_eq_ok_iff.1 hrows).2] at hvalue
    show ((Store.readAt _ p).value).Perm _
    rw [hvalue]
    exact Store.sorted_perm _
  refine ⟨?_, ?_, nodup_ids_iff⟩
  · rw [← hids, ← Store.perm_written_nil_iff]
    exact ⟨hstored.symm.trans, hstored.trans⟩
  · rw [← hids, ← Store.length_written_nil_iff, hstored.length_eq,
      List.length_map]

/-- A dictionary that tells a version and nothing else. -/
def versionFile (version : Text) : File where
  content := .bytes ((Header.bytes
    (Attributes.ofList [(Header.versionKey, version)])
    Header.defaultFormatVersion 0).toOption.getD [])

/-- A storage without a bundle and with an enabled locale. -/
def posix : Sources where
  layout := ⟨⟨.relative, [lit "root"]⟩⟩
  enabled? := some (.ok [lit "en_US_POSIX"])

/-- Its files: a dictionary for the locale that agrees with the enabled one but
for the case of letters. -/
def posixVolume : Volume where
  tree := .dir [(lit "root", .dir [(lit "dicts", .dir [(lit "en_US_posix",
    .dir [(lit "main%00003aen_us_posix", .file (versionFile (lit "7")))])])])]

/-- Both locales are listed, and one row is stored: that of the locale without
a dictionary. -/
theorem reconcile_stored_iff_sample :
    let p := Command.storeFile posix.layout.root
    let store := Store.initialise posixVolume.tree p
    let records := (posix.reconcile posixVolume).value
    let batch := Store.upsertAt store.tree p records
    let stored := (Store.readAt batch.tree p).value
    Store.IsFreeAt posixVolume.tree p ∧ store.value = .ok ()
      ∧ batch.value = .ok 2 ∧ records.map Record.version = [7, -1]
      ∧ ¬ stored.Perm (records.map Record.toRow)
      ∧ stored.map Row.version = [-1] := by
  intro p store records batch stored
  have hfree : Store.IsFreeAt posixVolume.tree p := by decide +kernel
  have hinit : store.value = .ok () := by decide +kernel
  have hbatch : batch.value = .ok 2 := by decide +kernel
  have h := reconcile_stored_iff posix posixVolume posixVolume.tree p 2
    hfree hinit hbatch
  refine ⟨hfree, hinit, hbatch, by decide +kernel, fun hperm => ?_,
    by decide +kernel⟩
  exact absurd (h.1.1 hperm) (by decide +kernel)

/-! ## Refused listings -/

/-- A record that a sweep found can be stored exactly if it is writable: it has
an identifier, and no number of it is too small. -/
theorem isStorable_toRow_iff (h : s.Origin v r) :
    r.toRow.IsStorable ↔ r.IsWritable := by
  have hnumbers : (∀ n ∈ r.toRow.numbers, isInt64 n = true)
      ↔ isInt64 (r.modified.fdiv 1000) = true ∧ isInt64 r.filesize = true
        ∧ isInt64 r.version = true := by
    simp [Row.numbers, Record.toRow]
  have hsize : isInt64 r.filesize = true ↔ r.filesize < 2 ^ 63 :=
    isInt64_eq_true_iff (Int.le_trans (by decide) h.filesize_nonneg)
  have hversion : isInt64 r.version = true ↔ r.version < 2 ^ 63 :=
    isInt64_eq_true_iff h.version_ge
  unfold Row.IsStorable Record.IsWritable
  rw [hnumbers, hsize, hversion]
  have hid : r.toRow.id.isSome := h.id_isSome
  tauto

/-- **A listing is stored exactly if each of its records is writable.**
Whatever its sources and what is denied on their volume, and whatever rows a
store that is ready holds: a listing is written to it exactly if no text of a
record holds a surrogate and no number exceeds 64 bits. If one does, the store
refuses the whole listing, keeps the rows it had, and the command that stores
the listing ends with the refusal. -/
theorem reconcile_writable_iff (s : Sources) (v : Volume) (t : FileTree)
    (p : Path) (rows : Store) (ht : Store.IsReady t p rows) :
    let records := (s.reconcile v).value
    ((Store.upsertAt t p records).value = .ok records.length
        ↔ ∀ r ∈ records, r.IsWritable)
      ∧ ((∃ r ∈ records, ¬ r.IsWritable) →
        ∃ e, ((∃ run, e = .unencodable run) ∨ e = .tooLarge)
          ∧ (Store.upsertAt t p records).value = .error e
          ∧ Store.IsReady (Store.upsertAt t p records).tree p rows
          ∧ ∀ l : Layout, Command.storeFile l.root = p →
            (Command.sync l t records).value = .error (.store e)) := by
  intro records
  have hstorable : (∀ r ∈ records, r.toRow.IsStorable)
      ↔ ∀ r ∈ records, r.IsWritable :=
    forall₂_congr fun r hr => isStorable_toRow_iff (origin_of_mem_reconcile hr)
  cases hu : rows.upsert records with
  | ok rows' =>
    have hall := hstorable.1 (Store.upsert_eq_ok_iff.1 hu).1
    refine ⟨iff_of_true (Store.upsertAt_of_eq_ok ht hu).1 hall, ?_⟩
    rintro ⟨r, hr, hnot⟩
    exact absurd (hall r hr) hnot
  | error e =>
    obtain ⟨hvalue, hready⟩ := Store.upsertAt_of_eq_error ht hu
    obtain ⟨r, hr, hrefused⟩ := Store.exists_of_upsert_eq_error hu
    have hnot : ¬ ∀ r ∈ records, r.IsWritable := by
      intro hall
      rw [Store.checkRow_eq_ok_iff.2 (hstorable.2 hall r hr)] at hrefused
      exact absurd hrefused (by simp)
    -- an identifier is never what is missing
    have hid : r.toRow.id ≠ none :=
      Option.isSome_iff_ne_none.1 (origin_of_mem_reconcile hr).id_isSome
    have hwhy : (∃ run, e = .unencodable run) ∨ e = .tooLarge :=
      (Store.checkRow_eq_error hrefused).imp_right fun h => h.resolve_right hid
    refine ⟨iff_of_false (by rw [hvalue]; simp) hnot, fun _ => ?_⟩
    refine ⟨e, hwhy, hvalue, hready, fun l hl => ?_⟩
    unfold Command.sync Effect.map
    rw [hl]
    dsimp only
    rw [hvalue]
    obtain ⟨run, rfl⟩ | rfl := hwhy <;> rfl

/-- A storage without a bundle. -/
def bare : Sources where
  layout := ⟨⟨.relative, [lit "root"]⟩⟩

/-- Its files: one dictionary, whose version is `2 ^ 63`. -/
def hugeVolume : Volume where
  tree := .dir [(lit "root", .dir [(lit "dicts", .dir [(lit "en",
    .dir [(lit "main%00003aen",
      .file (versionFile (lit "9223372036854775808")))])])])]

/-- The dictionary is listed, and the command that stores the listing ends with
the refusal of its version. -/
theorem reconcile_writable_iff_sample :
    let p := Command.storeFile bare.layout.root
    let store := Store.initialise hugeVolume.tree p
    let records := (bare.reconcile hugeVolume).value
    Store.IsReady store.tree p [] ∧ records.length = 1
      ∧ ∃ e, (Store.upsertAt store.tree p records).value = .error e
        ∧ Store.IsReady (Store.upsertAt store.tree p records).tree p []
        ∧ (Command.sync bare.layout store.tree records).value
          = .error (.store e) := by
  intro p store records
  have hready : Store.IsReady store.tree p [] :=
    Store.isReady_initialise (by decide +kernel) (by decide +kernel)
      (by decide +kernel)
  have hhuge : ∃ r ∈ records, ¬ r.version < 2 ^ 63 := by decide +kernel
  obtain ⟨r, hr, hversion⟩ := hhuge
  obtain ⟨e, -, hvalue, hkept, hsync⟩ :=
    (reconcile_writable_iff bare hugeVolume store.tree p [] hready).2
      ⟨r, hr, fun h => hversion h.2.1⟩
  exact ⟨hready, by decide +kernel, e, hvalue, hkept, hsync _ rfl⟩

end Sources

end Lexicon
