import Lexicon.FileAddress
import Lexicon.Record

/-!
# Sweeps

A sweep goes over the candidates of one source, each of which gives a finding:
perhaps a record, perhaps a file to delete, and what was reported. A finding
that is a failure ends the sweep; what was found before it stays found.
`Sweep.ofFindings` is the sweep over findings in order, and `Sweep.append` one
sweep after another.
-/

namespace Lexicon

/-- **What one candidate gives.** -/
inductive Finding where
  /-- It is passed over. -/
  | none (log : Log)
  /-- Its record. -/
  | record (record : Record) (log : Log)
  /-- It is of no use and is to be deleted. -/
  | discard (address : FileAddress) (log : Log)
  /-- The sweep cannot go on. -/
  | failure (error : FileError) (log : Log)

/-- **What a sweep gives.** -/
structure Sweep where
  /-- The records, in order. -/
  records : List Record := []
  /-- The files to delete, in order. -/
  discarded : List FileAddress := []
  /-- What was reported. -/
  log : Log := []
  /-- Why the sweep did not come to its end, if it did not. -/
  failure? : Option FileError := none

namespace Sweep

/-- **One sweep after another**, if the first came to its end. -/
def append (s t : Sweep) : Sweep :=
  match s.failure? with
  | some _ => s
  | none =>
    { records := s.records ++ t.records
      discarded := s.discarded ++ t.discarded
      log := s.log ++ t.log
      failure? := t.failure? }

instance : Append Sweep := ⟨append⟩

/-- The sweep that only reports. -/
def ofLog (log : Log) : Sweep := { log }

/-- The sweep over a single candidate. -/
def ofFinding : Finding → Sweep
  | .none log => { log }
  | .record record log => { records := [record], log }
  | .discard address log => { discarded := [address], log }
  | .failure error log => { log, failure? := some error }

/-- **One sweep over the next**, in order, up to the first that fails. -/
def concat (sweeps : List Sweep) : Sweep :=
  sweeps.foldr append {}

/-- **The sweep over findings**, up to the first failure. -/
def ofFindings (findings : List Finding) : Sweep :=
  concat (findings.map ofFinding)

/-- A sweep whose failure is only reported. -/
def excuse (s : Sweep) (report : FileError → LogLine) : Sweep :=
  match s.failure? with
  | none => s
  | some e => { s with log := s.log ++ [report e], failure? := none }

end Sweep

end Lexicon
