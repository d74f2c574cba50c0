import Lexicon.FileAddress
import Lexicon.Proofs.Volume.Node

/-!
# What is learned from an address

An address names a file, and what is learned from it is what the volume shows of
that file. A plain file that is shown has an address, a header or none, and a
time; and who has the address of a whole file has the one of a plain file that
was shown (`FileAddress.exists_of_ofFile`).

A header is read from the bytes at a position of a file that can be opened
(`Header.readHeader_of_isInt64`). A position that no offset can hold is refused
before that (`Header.readHeader_of_not_isInt64`).
-/

namespace Lexicon

variable {v : Volume} {p : Path} {file : File} {offset : Nat}

/-! ## Headers at a position -/

namespace Header

/-- **A file that can be opened is read from the bytes at a position**, if an
offset can hold that. -/
theorem readHeader_of_isInt64 (hopen : v.open? p = .ok file)
    (ho : isInt64 offset = true) (length? : Option Int) :
    v.readHeader p offset length?
      = (ofBytes (file.content.toBytes.drop offset) length?).mapError
        (.unsupported p) := by
  unfold Volume.readHeader
  rw [hopen]
  dsimp only
  rw [ho, Bool.not_true, if_neg Bool.false_ne_true,
    if_neg (Int.not_lt.2 (Int.natCast_nonneg offset)), Int.toNat_natCast]

theorem readHeader_of_not_isInt64 (hopen : v.open? p = .ok file)
    (ho : ¬ isInt64 offset = true) (length? : Option Int) :
    v.readHeader p offset length? = .error (.improper .offsetOutOfRange) := by
  unfold Volume.readHeader
  rw [hopen]
  dsimp only
  rw [eq_false_of_ne_true ho, Bool.not_false, if_pos rfl]

/-- A header in a file is read from the bytes at its position, if an offset can
hold that. -/
theorem readHeader_of_open? {length? : Option Int} {header : Header}
    (hopen : v.open? p = .ok file) (ho : isInt64 offset = true) :
    v.readHeader p offset length? = .ok header
      ↔ ofBytes (file.content.toBytes.drop offset) length? = .ok header := by
  rw [readHeader_of_isInt64 hopen ho, mapError_eq_ok]

/-- **A header that was read** is what the bytes at its position open with. -/
theorem exists_of_readHeader {offset : Int} {length? : Option Int}
    {header : Header} (h : v.readHeader p offset length? = .ok header) :
    ∃ file, v.open? p = .ok file
      ∧ ofBytes (file.content.toBytes.drop offset.toNat) length?
        = .ok header := by
  unfold Volume.readHeader at h
  cases hopen : v.open? p with
  | error e =>
    rw [hopen] at h
    exact absurd h (by simp)
  | ok file =>
    rw [hopen] at h
    dsimp only at h
    refine ⟨file, rfl, ?_⟩
    split at h
    · exact absurd h (by simp)
    split at h
    · exact absurd h (by simp)
    exact mapError_eq_ok.1 h

end Header

/-! ## Addresses -/

namespace FileAddress

variable {f : File} {a : FileAddress} {length : Int}

/-- **What is learned at a position that an offset can hold**: the header that
the bytes there open with, or that they open with none. -/
theorem value_header?_of_isInt64 (hopen : v.open? p = .ok file)
    (ho : isInt64 offset = true) :
    (header? v ⟨p, offset, length⟩).value
      = .ok (Header.ofBytes (file.content.toBytes.drop offset)
        (some length)).toOption := by
  unfold header?
  rw [Header.readHeader_of_isInt64 hopen ho]
  cases Header.ofBytes (file.content.toBytes.drop offset) (some length) <;> rfl

theorem value_header?_of_not_isInt64 (hopen : v.open? p = .ok file)
    (ho : ¬ isInt64 offset = true) :
    (header? v ⟨p, offset, length⟩).value = .error .offsetOutOfRange := by
  unfold header?
  rw [Header.readHeader_of_not_isInt64 hopen ho]

theorem value_header? (h : v.file? p = some f) (length : Int) :
    (header? v ⟨p, 0, length⟩).value
      = .ok (Header.ofBytes f.content.toBytes (some length)).toOption := by
  have hstart : isInt64 ((0 : Nat) : Int) = true := by decide
  exact value_header?_of_isInt64 (Volume.open?_of_file? h) hstart

theorem lastModified_eq (h : v.file? p = some f) (offset length : Int) :
    lastModified v ⟨p, offset, length⟩ = .ok (Time.millis f.modified) := by
  unfold lastModified
  dsimp only
  rw [Volume.file?_eq_some_iff.1 h]

theorem value_ofFile (h : v.file? p = some f) :
    (ofFile v p).value = some ⟨p, 0, f.content.toBytes.length⟩ := by
  unfold ofFile
  rw [Volume.file?_eq_some_iff.1 h]

/-- **A whole file is addressed where a plain file is shown.** -/
theorem exists_of_ofFile (h : (ofFile v p).value = some a) :
    ∃ f, v.file? p = some f ∧ a = ⟨p, 0, f.content.toBytes.length⟩ := by
  unfold ofFile at h
  rcases hn : v.node p with e | (f | es) <;> rw [hn] at h
  · dsimp only at h
    split at h <;> exact absurd h (by simp)
  · exact ⟨f, Volume.file?_eq_some_iff.2 hn, (Option.some.inj h).symm⟩
  · exact absurd h (by simp)

theorem length_nonneg (h : (ofFile v p).value = some a) : 0 ≤ a.length := by
  obtain ⟨f, -, rfl⟩ := exists_of_ofFile h
  exact Int.natCast_nonneg _

end FileAddress

end Lexicon
