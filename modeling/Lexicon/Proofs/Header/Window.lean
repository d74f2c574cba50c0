import Lexicon.Proofs.Header.Grammar

/-!
# Dictionaries see their window

An address tells a window of a file: a position and how many bytes from there
on belong to the dictionary. What is learned from an address is learned from the
bytes in its window. Two files that have the same bytes there – and end at the
same place, should they end inside it – give the same header and the same
content version, whatever stands around (`FileAddress.contentVersion_window`).

The reader looks at the fixed bytes before it looks at the length, and a size
field may tell any number. But a header that is longer than the window is
refused for its size, and one that is not is in the window as a whole
(`Header.Opens.of_take_eq`).
-/

namespace Lexicon

namespace Header

variable {bytes bytes' : List Byte} {length : Int} {size : Nat}
  {pairs : List (Text × Text)} {header : Header}

/-- **A header is in the window as a whole**, so other bytes with that window
open with it, too. -/
theorem Opens.of_take_eq (h : Opens bytes (some length) size pairs header)
    (hw : bytes.take length.toNat = bytes'.take length.toNat) :
    Opens bytes' (some length) size pairs header := by
  obtain ⟨block, rest, hsize, hblock, hbytes⟩ := h.written
  have hle : size ≤ length.toNat := by
    have := h.size_le length rfl
    omega
  have hfront : bytes.take size
      = fixedBytes header.formatVersion header.flags size ++ block := by
    rw [hbytes]
    exact List.take_left' (by
      rw [List.length_append, length_fixedBytes, hsize]
      rfl)
  have hsame : bytes'.take size = bytes.take size := by
    have := congrArg (List.take size) hw
    rwa [List.take_take, List.take_take, Nat.min_eq_left hle, eq_comm] at this
  refine { h with
    written := ⟨block, bytes'.drop size, hsize, hblock, ?_⟩ }
  rw [← hfront, ← hsame, List.take_append_drop]

theorem opens_congr
    (hw : bytes.take length.toNat = bytes'.take length.toNat) :
    Opens bytes (some length) size pairs header
      ↔ Opens bytes' (some length) size pairs header :=
  ⟨fun h => h.of_take_eq hw, fun h => h.of_take_eq hw.symm⟩

/-- **Bytes with the same window are read as the same header**, or as none. -/
theorem ofBytes_eq_ok_congr
    (hw : bytes.take length.toNat = bytes'.take length.toNat) :
    ofBytes bytes (some length) = .ok header
      ↔ ofBytes bytes' (some length) = .ok header := by
  simp only [ofBytes_eq_ok_iff, opens_congr hw]

/-- What is read of them at all is the same. -/
theorem toOption_ofBytes_congr
    (hw : bytes.take length.toNat = bytes'.take length.toNat) :
    (ofBytes bytes (some length)).toOption
      = (ofBytes bytes' (some length)).toOption := by
  have htold : ∀ {e : Except HeaderFault Header} {header : Header},
      e.toOption = some header ↔ e = .ok header := by
    intro e header
    cases e <;> simp [Except.toOption]
  refine Option.ext fun header => ?_
  rw [htold, htold, ofBytes_eq_ok_congr hw]

end Header

namespace FileAddress

/-- **Nothing outside of the window is learned.** Let two files be ones that can
be opened, and have the same bytes in the window of an address. Then they have
the same header there, or both have none, and the content version is the
same. -/
theorem contentVersion_window (v w : Volume) (p q : Path) (file other : File)
    (offset : Nat) (length : Int) (hfile : v.open? p = .ok file)
    (hother : w.open? q = .ok other)
    (hw : (file.content.toBytes.drop offset).take length.toNat
      = (other.content.toBytes.drop offset).take length.toNat) :
    (contentVersion v ⟨p, offset, length⟩).value
        = (contentVersion w ⟨q, offset, length⟩).value
      ∧ ∀ header, v.readHeader p offset (some length) = .ok header
        ↔ w.readHeader q offset (some length) = .ok header := by
  unfold contentVersion
  dsimp only
  by_cases ho : isInt64 offset = true
  · refine ⟨?_, fun header => ?_⟩
    · rw [value_header?_of_isInt64 hfile ho, value_header?_of_isInt64 hother ho,
        Header.toOption_ofBytes_congr hw]
    · rw [Header.readHeader_of_open? hfile ho,
        Header.readHeader_of_open? hother ho, Header.ofBytes_eq_ok_congr hw]
  · refine ⟨?_, fun header => ?_⟩
    · rw [value_header?_of_not_isInt64 hfile ho,
        value_header?_of_not_isInt64 hother ho]
    · rw [Header.readHeader_of_not_isInt64 hfile ho,
        Header.readHeader_of_not_isInt64 hother ho]

/-- A file with the window of the sample between other bytes. -/
def framedFile : File where
  content := .bytes ([1, 2]
    ++ (Header.repeatingFile.content.toBytes.drop 2).take 37 ++ [0, 0, 3])

/-- That file alone. -/
def framedVolume : Volume where
  tree := .dir [(lit "framed", .file framedFile)]

/-- The sample and that file have one content version. -/
theorem contentVersion_window_sample :
    (contentVersion Header.repeatingVolume
        ⟨⟨.relative, [lit "whole"]⟩, 2, 37⟩).value = .ok 18
      ∧ (contentVersion framedVolume
        ⟨⟨.relative, [lit "framed"]⟩, 2, 37⟩).value = .ok 18 := by
  have hversion : (contentVersion Header.repeatingVolume
      ⟨⟨.relative, [lit "whole"]⟩, 2, 37⟩).value = .ok 18 := by
    decide +kernel
  obtain ⟨hsame, -⟩ := contentVersion_window Header.repeatingVolume framedVolume
    ⟨.relative, [lit "whole"]⟩ ⟨.relative, [lit "framed"]⟩ Header.repeatingFile
    framedFile 2 37 (by decide +kernel) (by decide +kernel) (by decide +kernel)
  exact ⟨hversion, hsame ▸ hversion⟩

end FileAddress

end Lexicon
