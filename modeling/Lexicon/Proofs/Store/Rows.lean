import Mathlib.Data.List.Nodup
import Mathlib.Data.List.Perm.Subperm
import Lexicon.Proofs.Outcome
import Lexicon.Store.Basic
import Lexicon.Text.Utf8.RoundTrip

/-!
# What a batch leaves in a store

A row can be stored if it has an identifier, no text of it holds a surrogate
and its numbers fit into 64 bits (`Row.IsStorable`), and a batch is written
exactly if each of its rows can be (`Store.upsert_eq_ok_iff`). What is written
is the fold of single insertions, each of which takes the place of the row with
its identifier. So identifiers never repeat in a store, and a batch leaves one
row of each record exactly if the identifiers of the batch do not repeat
(`Store.perm_written_nil_iff`); where they do, some record is lost. Seen by
identifiers, what is written is a map that the last row with an identifier
decides (`Store.row?_written`).
-/

namespace Lexicon

/-- **Whether a row can be stored**, told by what it holds. -/
def Row.IsStorable (r : Row) : Prop :=
  r.id.isSome ∧ (∀ t ∈ r.texts, ∀ c ∈ t, c.isSurrogate = false)
    ∧ ∀ n ∈ r.numbers, isInt64 n = true

instance (r : Row) : Decidable r.IsStorable :=
  inferInstanceAs (Decidable (_ ∧ _ ∧ _))

namespace Store

variable {s s' : Store} {r : Row} {e : StoreError}

/-! ## Single rows -/

@[simp] theorem checkText_eq_ok_iff {t : Text} :
    checkText t = .ok () ↔ ∀ c ∈ t, c.isSurrogate = false := by
  rw [← Utf8.surrogateRunFrom?_eq_none_iff 0 t, ← Utf8.surrogateRun?, checkText]
  cases Utf8.surrogateRun? t <;> simp

@[simp] theorem checkNumber_eq_ok_iff {n : Int} :
    checkNumber n = .ok () ↔ isInt64 n = true := by
  unfold checkNumber
  split <;> simp_all

/-- **A row is taken exactly if it can be stored.** -/
@[simp] theorem checkRow_eq_ok_iff : checkRow r = .ok () ↔ r.IsStorable := by
  unfold checkRow Row.IsStorable
  simp only [bind_unit_eq_ok, forM_eq_ok, checkText_eq_ok_iff,
    checkNumber_eq_ok_iff]
  cases r.id with
  | none => simp [throw, throwThe, MonadExceptOf.throw]
  | some id => simp [pure, Except.pure]

/-- **Why a row is not taken**: a text has no bytes, a number does not fit, or
it has no identifier. -/
theorem checkRow_eq_error (h : checkRow r = .error e) :
    (∃ run, e = .unencodable run) ∨ e = .tooLarge ∨ r.id = none := by
  unfold checkRow at h
  obtain h | ⟨-, -, h⟩ := bind_eq_error.1 h
  · obtain ⟨t, -, ht⟩ := exists_of_forM_eq_error h
    unfold checkText at ht
    split at ht
    · exact Or.inl ⟨_, (Except.error.inj ht).symm⟩
    · exact absurd ht (by simp)
  obtain h | ⟨-, -, h⟩ := bind_eq_error.1 h
  · obtain ⟨n, -, hn⟩ := exists_of_forM_eq_error h
    unfold checkNumber at hn
    split at hn
    · exact absurd hn (by simp)
    · exact Or.inr (Or.inl (Except.error.inj hn).symm)
  · cases hid : r.id with
    | none => exact Or.inr (Or.inr rfl)
    | some id =>
      rw [hid] at h
      exact absurd h pure_ne_error

/-! ## Identifiers -/

/-- The identifiers of a store, in order. -/
def ids (s : Store) : List (Option Text) :=
  s.map (·.id)

/-- **What an insertion leaves**: the new row, and the rows with other
identifiers. -/
@[simp] theorem mem_insert {x : Row} :
    x ∈ s.insert r ↔ x = r ∨ (x ∈ s ∧ x.id ≠ r.id) := by
  unfold insert
  rw [List.mem_append, List.mem_filter, List.mem_singleton, or_comm,
    decide_eq_true_eq]

/-- **An insertion repeats no identifier.** -/
theorem nodup_ids_insert (h : s.ids.Nodup) (r : Row) : (s.insert r).ids.Nodup := by
  unfold ids insert
  rw [List.map_append, List.map_singleton, ← List.concat_eq_append]
  refine List.Nodup.concat (fun hr => ?_) (h.sublist (List.filter_sublist.map _))
  obtain ⟨x, hx, hid⟩ := List.mem_map.1 hr
  exact of_decide_eq_true (List.mem_filter.1 hx).2 hid

theorem insert_of_new (h : r.id ∉ s.ids) : s.insert r = s ++ [r] := by
  have hall : ∀ x ∈ s, decide (x.id ≠ r.id) = true := fun x hx =>
    decide_eq_true fun he => h (List.mem_map.2 ⟨x, hx, he⟩)
  unfold insert
  rw [List.filter_eq_self.2 hall]

/-! ## Batches -/

/-- **The rows with some more written**, one after the other. -/
def written (s : Store) (rows : List Row) : Store :=
  rows.foldl insert s

theorem nodup_ids_written (h : s.ids.Nodup) (rows : List Row) :
    (s.written rows).ids.Nodup := by
  unfold written
  induction rows generalizing s with
  | nil => exact h
  | cons r rows ih => exact ih (nodup_ids_insert h r)

/-- What is stored was stored before or is written. -/
theorem mem_of_mem_written {rows : List Row} {x : Row}
    (h : x ∈ s.written rows) : x ∈ s ∨ x ∈ rows := by
  unfold written at h
  induction rows generalizing s with
  | nil => exact Or.inl h
  | cons r rows ih =>
    obtain hs | hr := ih h
    · exact (mem_insert.1 hs).elim (fun he => Or.inr (he ▸ List.mem_cons_self))
        fun hs => Or.inl hs.1
    · exact Or.inr (List.mem_cons_of_mem _ hr)

/-- **Rows with new and distinct identifiers are put behind the others.** -/
theorem written_of_nodup {rows : List Row} (h : (ids (s ++ rows)).Nodup) :
    s.written rows = s ++ rows := by
  unfold written
  induction rows generalizing s with
  | nil => exact (List.append_nil s).symm
  | cons r rows ih =>
    have hnew : r.id ∉ s.ids := by
      unfold ids at h ⊢
      rw [List.map_append, List.map_cons] at h
      exact fun hr => (List.disjoint_of_nodup_append h) hr List.mem_cons_self
    rw [List.append_cons] at h
    rw [List.foldl_cons, insert_of_new hnew, ih h, ← List.append_cons]

/-- **Whether a batch leaves one row of each of its own** in an empty store:
exactly if their identifiers do not repeat. -/
theorem perm_written_nil_iff {rows : List Row} :
    (written [] rows).Perm rows ↔ (ids rows).Nodup := by
  constructor
  · intro h
    exact (h.map _).nodup_iff.1
      (nodup_ids_written (s := []) List.nodup_nil rows)
  · intro h
    rw [written_of_nodup (s := []) h]
    exact List.Perm.refl _

/-- **Whether a batch leaves as many rows as it has** in an empty store:
exactly if their identifiers do not repeat. -/
theorem length_written_nil_iff {rows : List Row} :
    (written [] rows).length = rows.length ↔ (ids rows).Nodup := by
  constructor
  · intro h
    -- distinct identifiers of the batch, as many as there are in it
    have hsub : (ids (written [] rows)) ⊆ ids rows := by
      refine List.map_subset _ fun x hx => ?_
      exact (mem_of_mem_written hx).resolve_left List.not_mem_nil
    have hnodup := nodup_ids_written (s := []) List.nodup_nil rows
    have hlength : (ids rows).length ≤ (ids (written [] rows)).length := by
      unfold ids
      rw [List.length_map, List.length_map]
      exact Nat.le_of_eq h.symm
    exact ((hnodup.subperm hsub).perm_of_length_le hlength).nodup_iff.1 hnodup
  · exact fun h => (perm_written_nil_iff.2 h).length_eq

/-- **A batch of records is written exactly if each of their rows can be
stored.** -/
theorem upsert_eq_ok_iff {records : List Record} :
    s.upsert records = .ok s'
      ↔ (∀ r ∈ records, r.toRow.IsStorable)
        ∧ s.written (records.map Record.toRow) = s' := by
  induction records generalizing s with
  | nil => simp [upsert, written]
  | cons r rest ih =>
    unfold upsert
    rw [bind_unit_eq_ok, List.forall_mem_cons, and_assoc,
      ← checkRow_eq_ok_iff, ih]
    rfl

/-- A batch is refused for one of its rows. -/
theorem exists_of_upsert_eq_error {records : List Record}
    (h : s.upsert records = .error e) :
    ∃ r ∈ records, checkRow r.toRow = .error e := by
  induction records generalizing s with
  | nil => exact absurd h (by simp [upsert])
  | cons r rest ih =>
    unfold upsert at h
    obtain h | ⟨-, -, h⟩ := bind_eq_error.1 h
    · exact ⟨r, List.mem_cons_self, h⟩
    · obtain ⟨r', hr', he⟩ := ih h
      exact ⟨r', List.mem_cons_of_mem _ hr', he⟩

theorem upsert_eq_written {records : List Record}
    (h : ∀ r ∈ records, r.toRow.IsStorable) (s : Store) :
    s.upsert records = .ok (s.written (records.map Record.toRow)) :=
  upsert_eq_ok_iff.2 ⟨h, rfl⟩

theorem exists_upsert_eq_error {records : List Record}
    (h : ¬ ∀ r ∈ records, r.toRow.IsStorable) (s : Store) :
    ∃ e, s.upsert records = .error e := by
  cases hu : s.upsert records with
  | ok s' => exact absurd (upsert_eq_ok_iff.1 hu).1 h
  | error e => exact ⟨e, rfl⟩

/-- A store in which a batch was written or refused repeats no identifier. -/
theorem nodup_ids_upsert (h : s.ids.Nodup) (records : List Record) :
    ((s.upsert records).toOption.getD s).ids.Nodup := by
  cases hu : s.upsert records with
  | error e => exact h
  | ok s' =>
    obtain ⟨-, rfl⟩ := upsert_eq_ok_iff.1 hu
    exact nodup_ids_written h _

/-! ## Rows by identifier -/

/-- The row of an identifier, if there is one. -/
def row? (s : Store) (id : Option Text) : Option Row :=
  s.find? (·.id = id)

/-- **An insertion changes the row of one identifier.** -/
theorem row?_insert (s : Store) (r : Row) (id : Option Text) :
    (s.insert r).row? id = if r.id = id then some r else s.row? id := by
  have hothers : (s.filter (·.id ≠ r.id)).find? (·.id = id)
      = if r.id = id then none else s.find? (·.id = id) := by
    split
    · rename_i hid
      rw [List.find?_eq_none]
      intro x hx
      have hne := of_decide_eq_true (List.mem_filter.1 hx).2
      simpa [← hid] using hne
    · rename_i hid
      rw [List.find?_filter]
      refine congrArg (s.find? ·) (funext fun x => ?_)
      by_cases hx : x.id = id
      · simp [hx, Ne.symm hid]
      · simp [hx]
  unfold row? insert
  rw [List.find?_append, hothers, List.find?_singleton]
  by_cases hid : r.id = id
  · rw [if_pos hid, if_pos hid, if_pos (decide_eq_true hid), Option.none_or]
  · rw [if_neg hid, if_neg hid, if_neg (by simpa using hid), Option.or_none]

/-- **The last row written for an identifier is its row**, and where none is
written the row is the one it was. -/
theorem row?_written (s : Store) (rows : List Row) (id : Option Text) :
    (s.written rows).row? id
      = (rows.reverse.find? (·.id = id)).or (s.row? id) := by
  induction rows generalizing s with
  | nil => exact (Option.none_or).symm
  | cons r rows ih =>
    have hfirst : ((s.insert r).written rows).row? id
        = (s.written (r :: rows)).row? id := rfl
    rw [← hfirst, ih, row?_insert, List.reverse_cons, List.find?_append,
      List.find?_singleton, Option.or_assoc]
    by_cases hid : r.id = id
    · rw [if_pos hid, if_pos (decide_eq_true hid), Option.some_or]
    · rw [if_neg hid, if_neg (by simpa using hid), Option.none_or]

@[simp] theorem written_append (s : Store) (rows more : List Row) :
    s.written (rows ++ more) = (s.written rows).written more :=
  List.foldl_append

theorem find?_reverse_map_toRow (records : List Record) (id : Option Text) :
    (records.map Record.toRow).reverse.find? (·.id = id)
      = (records.reverse.find? (·.id = id)).map Record.toRow := by
  rw [← List.map_reverse, List.find?_map]
  rfl

/-! ## Rows in order -/

theorem sorted_perm (s : Store) : s.sorted.Perm s :=
  List.mergeSort_perm s _

/-- **Sorted rows are in order** by the texts of their locales. -/
theorem pairwise_sorted (s : Store) :
    s.sorted.Pairwise fun a b => Text.le a.locale b.locale = true := by
  unfold sorted
  refine List.pairwise_mergeSort (fun a b c hab hbc => ?_) (fun a b => ?_) s
  · exact Text.le_trans hab hbc
  · exact Text.le_total a.locale b.locale

end Store

end Lexicon
