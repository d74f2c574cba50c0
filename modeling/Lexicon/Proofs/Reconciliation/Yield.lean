import Mathlib.Data.List.Basic
import Lexicon.Reconciliation.Sweep

/-!
# What sweeps yield

A sweep that comes to its end is told by two lists: the records it found and
the files it wants deleted. `Sweep.Yields` says that it did and what they are,
and the ways of building a sweep are read through it: reporting yields nothing,
one sweep after another yields the lists of both (`Sweep.Yields.append`), and a
sweep over many candidates what each of them gives, in order
(`Sweep.Yields.concat`). What is reported on the way stays out of it.
-/

namespace Lexicon.Sweep

/-- One sweep after another fails with the first of their failures. -/
@[simp] theorem failure?_append (s t : Sweep) :
    (s ++ t).failure? = s.failure?.or t.failure? := by
  show (append s t).failure? = _
  unfold append
  split
  · rename_i e h
    rw [h]
    rfl
  · rename_i h
    rw [h]
    rfl

/-- **The sweep came to its end** with these records and these files to
delete. -/
structure Yields (s : Sweep) (records : List Record)
    (discarded : List FileAddress) : Prop where
  /-- Nothing stopped it. -/
  failure?_eq : s.failure? = none
  /-- Its records, in order. -/
  records_eq : s.records = records
  /-- Its files to delete, in order. -/
  discarded_eq : s.discarded = discarded

@[simp] theorem yields_ofLog (log : Log) : (ofLog log).Yields [] [] :=
  ⟨rfl, rfl, rfl⟩

@[simp] theorem yields_empty : Yields {} [] [] :=
  ⟨rfl, rfl, rfl⟩

namespace Yields

variable {s t : Sweep} {records records' : List Record}
  {discarded discarded' : List FileAddress}

/-- **One sweep after another** yields what both yield. -/
theorem append (hs : s.Yields records discarded)
    (ht : t.Yields records' discarded') :
    (s ++ t).Yields (records ++ records') (discarded ++ discarded') := by
  obtain ⟨hf, rfl, rfl⟩ := hs
  obtain ⟨hf', rfl, rfl⟩ := ht
  have h : s ++ t
      = { records := s.records ++ t.records
          discarded := s.discarded ++ t.discarded
          log := s.log ++ t.log
          failure? := t.failure? } := by
    show Sweep.append s t = _
    unfold Sweep.append
    rw [hf]
  rw [h]
  exact ⟨hf', rfl, rfl⟩

theorem ofLog_append (log : Log) (hs : s.Yields records discarded) :
    (ofLog log ++ s).Yields records discarded :=
  (yields_ofLog log).append hs

theorem excuse (hs : s.Yields records discarded)
    (report : FileError → LogLine) :
    (s.excuse report).Yields records discarded := by
  unfold Sweep.excuse
  rw [hs.failure?_eq]
  exact hs

/-- **A sweep over many** yields what each of them yields, in order. -/
theorem concat {ι : Type} {sweep : ι → Sweep} {records : ι → List Record}
    {discarded : ι → List FileAddress} (xs : List ι)
    (h : ∀ x ∈ xs, (sweep x).Yields (records x) (discarded x)) :
    (Sweep.concat (xs.map sweep)).Yields (xs.flatMap records)
      (xs.flatMap discarded) := by
  induction xs with
  | nil => exact yields_empty
  | cons x xs ih =>
    obtain ⟨hx, hxs⟩ := List.forall_mem_cons.1 h
    show (Sweep.append (sweep x) (Sweep.concat (xs.map sweep))).Yields _ _
    rw [List.flatMap_cons, List.flatMap_cons]
    exact hx.append (ih hxs)

theorem concat_keeping {ι : Type} {sweep : ι → Sweep}
    {records : ι → List Record} (xs : List ι)
    (h : ∀ x ∈ xs, (sweep x).Yields (records x) []) :
    (Sweep.concat (xs.map sweep)).Yields (xs.flatMap records) [] := by
  have hnil : xs.flatMap (fun _ => ([] : List FileAddress)) = [] :=
    List.flatMap_eq_nil_iff.2 fun _ _ => rfl
  rw [← hnil]
  exact concat xs h

/-- **A sweep over findings** yields what each finding gives, in order. -/
theorem ofFindings {ι : Type} {finding : ι → Finding}
    {records : ι → List Record} {discarded : ι → List FileAddress}
    (xs : List ι)
    (h : ∀ x ∈ xs,
      (ofFinding (finding x)).Yields (records x) (discarded x)) :
    (Sweep.ofFindings (xs.map finding)).Yields (xs.flatMap records)
      (xs.flatMap discarded) := by
  unfold Sweep.ofFindings
  rw [List.map_map]
  exact concat xs h

/-- A sweep over findings of which none has anything deleted and each gives a
record or none. -/
theorem ofFindings_keeping {ι : Type} {finding : ι → Finding}
    {record? : ι → Option Record} (xs : List ι)
    (h : ∀ x ∈ xs, (ofFinding (finding x)).Yields (record? x).toList []) :
    (Sweep.ofFindings (xs.map finding)).Yields (xs.filterMap record?) [] := by
  unfold Sweep.ofFindings
  rw [List.map_map, List.filterMap_eq_flatMap_toList]
  exact concat_keeping xs h

end Yields

end Lexicon.Sweep
