import Lexicon.Proofs.Header.Blocks

/-!
# What bytes are a header

The bytes of a header are told by how they are put together
(`Header.Opens`): the magic number, a format version that can be read, flags
and a size, each in a field of its width, then a block of attributes up to the
size. Where the reader is told a length, the size is not beyond it.

Reading is exact (`Header.readHeader_opens_iff`): it gives the headers that the
bytes at a position of a file open with, refuses all other bytes as no header,
and so refuses every file that was cut before a header came to its end. The
position has to be one that an offset can hold. At any other the file is not
looked at, and the refusal is not that the bytes are no header
(`Header.readHeader_outOfRange`).
-/

namespace Lexicon

namespace BigEndian

theorem number_lt (field : List Byte) :
    number field < 0x100 ^ field.length := by
  induction field using List.reverseRecOn with
  | nil => exact Nat.one_pos
  | append_singleton field b ih =>
    have hb := b.toNat_lt
    rw [number_concat, List.length_append, List.length_singleton, Nat.pow_succ]
    omega

/-- **A field is what the number in it is written as.** -/
@[simp] theorem bytes_number (field : List Byte) :
    bytes field.length (number field) = field := by
  induction field using List.reverseRecOn with
  | nil => rfl
  | append_singleton field b ih =>
    have hb := b.toNat_lt
    rw [number_concat, List.length_append, List.length_singleton, bytes,
      show (number field * 0x100 + b.toNat) / 0x100 = number field by omega,
      show (number field * 0x100 + b.toNat) % 0x100 = b.toNat by omega, ih,
      UInt8.ofNat_toNat]

/-- A field of a width is what the number in it is written as, which fits into
that width. -/
theorem bytes_number_of_length {field : List Byte} {width : Nat}
    (h : field.length = width) :
    bytes width (number field) = field ∧ number field < 0x100 ^ width := by
  subst h
  exact ⟨bytes_number field, number_lt field⟩

end BigEndian

namespace Header

/-- **Bytes open with a header** of a size, whose attributes are collected from
pairs: the fixed bytes, and a block up to the size. The size is not beyond the
length that is told. Nothing is said about the bytes behind it. -/
structure Opens (bytes : List Byte) (length? : Option Int) (size : Nat)
    (pairs : List (Text × Text)) (header : Header) : Prop where
  /-- The format can be read. -/
  formatVersion_ge : 2 ≤ header.formatVersion
  /-- The format version fits into its field. -/
  formatVersion_lt : header.formatVersion < 2 ^ 16
  /-- The flags fit into their field. -/
  flags_lt : header.flags < 2 ^ 16
  /-- The size fits into its field. -/
  size_lt : size < 2 ^ 32
  /-- The header does not exceed the length that is told. -/
  size_le : ∀ n ∈ length?, (size : Int) ≤ n
  /-- The bytes are the fixed ones, a block and whatever follows. -/
  written : ∃ block rest, size = 12 + block.length ∧ IsBlock block pairs
    ∧ bytes = fixedBytes header.formatVersion header.flags size ++ block ++ rest
  /-- The attributes are those of the block. -/
  collects : header.attributes.Collects pairs

namespace Opens

variable {bytes : List Byte} {length? : Option Int} {size : Nat}
  {pairs : List (Text × Text)} {header : Header}

theorem size_ge (h : Opens bytes length? size pairs header) : 12 ≤ size := by
  obtain ⟨block, rest, hsize, -⟩ := h.written
  omega

theorem size_le_length (h : Opens bytes length? size pairs header) :
    size ≤ bytes.length := by
  obtain ⟨block, rest, hsize, -, rfl⟩ := h.written
  rw [List.length_append, List.length_append, length_fixedBytes, fixedSize]
  omega

end Opens

/-- **The fixed bytes are what the numbers in them are written as.** -/
theorem take_fixedSize {bytes : List Byte} (h : fixedSize ≤ bytes.length)
    (hm : BigEndian.number (bytes.take 4) = magic) :
    bytes.take fixedSize
        = fixedBytes (BigEndian.number ((bytes.drop 4).take 2))
          (BigEndian.number ((bytes.drop 6).take 2))
          (BigEndian.number ((bytes.drop 8).take 4))
      ∧ BigEndian.number ((bytes.drop 4).take 2) < 2 ^ 16
      ∧ BigEndian.number ((bytes.drop 6).take 2) < 2 ^ 16
      ∧ BigEndian.number ((bytes.drop 8).take 4) < 2 ^ 32 := by
  have hfield : ∀ start width, start + width ≤ fixedSize →
      ((bytes.drop start).take width).length = width := by
    intro start width hfits
    rw [List.length_take, List.length_drop]
    omega
  obtain ⟨hmagic, -⟩ :=
    BigEndian.bytes_number_of_length (hfield 0 4 (by decide))
  obtain ⟨hversion, hversion_lt⟩ :=
    BigEndian.bytes_number_of_length (hfield 4 2 (by decide))
  obtain ⟨hflags, hflags_lt⟩ :=
    BigEndian.bytes_number_of_length (hfield 6 2 (by decide))
  obtain ⟨hsize, hsize_lt⟩ :=
    BigEndian.bytes_number_of_length (hfield 8 4 (by decide))
  rw [List.drop_zero, hm] at hmagic
  refine ⟨?_, hversion_lt, hflags_lt, hsize_lt⟩
  rw [fixedBytes, hmagic, hversion, hflags, hsize,
    show fixedSize = 4 + 2 + 2 + 4 from rfl, List.take_add, List.take_add,
    List.take_add]

/-- **What bytes are that were read as a header.** -/
theorem opens_of_ofBytes {bytes : List Byte} {length? : Option Int}
    {header : Header} (h : ofBytes bytes length? = .ok header) :
    ∃ size pairs, Opens bytes length? size pairs header := by
  unfold ofBytes at h
  dsimp only at h
  split at h
  · exact absurd h (by simp)
  rename_i hlong
  split at h
  · exact absurd h (by simp)
  rename_i hmagic
  obtain ⟨hfixed, hversion_lt, hflags_lt, hsize_lt⟩ :=
    take_fixedSize (Nat.not_lt.1 hlong) (not_not.1 hmagic)
  generalize BigEndian.number ((bytes.drop 4).take 2) = version at *
  generalize BigEndian.number ((bytes.drop 6).take 2) = flags at *
  generalize BigEndian.number ((bytes.drop 8).take 4) = size at *
  generalize hblock : (bytes.drop fixedSize).take (size - fixedSize) = block
    at h
  split at h
  · exact absurd h (by simp)
  rename_i hversion
  split at h
  · exact absurd h (by simp)
  rename_i hsize
  rw [not_or, Nat.not_lt] at hsize
  split at h
  · exact absurd h (by simp)
  rename_i hpresent
  obtain ⟨a, ha, rfl⟩ := map_eq_ok.1 h
  obtain ⟨pairs, hpairs, hcollects⟩ := readAttributes_eq_ok_iff.1 ha
  refine ⟨size, pairs, Nat.not_lt.1 hversion, hversion_lt, hflags_lt, hsize_lt,
    ?_, ⟨block, (bytes.drop fixedSize).drop (size - fixedSize), ?_, hpairs,
      ?_⟩, hcollects⟩
  · intro n hn
    refine Int.not_lt.1 fun hlt => hsize.2 ?_
    exact (Option.any_eq_true _ _).2 ⟨n, hn, decide_eq_true hlt⟩
  · rw [not_not.1 hpresent]
    exact (Nat.add_sub_of_le hsize.1).symm
  · rw [← hfixed, List.append_assoc, ← hblock, List.take_append_drop,
      List.take_append_drop]

/-- **Bytes are read as a header exactly if they open with it.** -/
theorem ofBytes_eq_ok_iff {bytes : List Byte} {length? : Option Int}
    {header : Header} :
    ofBytes bytes length? = .ok header
      ↔ ∃ size pairs, Opens bytes length? size pairs header := by
  refine ⟨opens_of_ofBytes, ?_⟩
  rintro ⟨size, pairs, h⟩
  obtain ⟨block, rest, hsize, hblock, hbytes⟩ := h.written
  have hread := readAttributes_eq_ok_iff.2 ⟨pairs, hblock, h.collects⟩
  have hsize' : size = fixedSize + block.length := hsize
  rw [hbytes, hsize', ofBytes_fixedBytes h.formatVersion_ge h.formatVersion_lt
    h.flags_lt (hsize' ▸ h.size_lt) (hsize' ▸ h.size_le), hread]
  rfl

/-! ## Headers that are cut -/

/-- The size of a header is told by its field. -/
theorem Opens.number_eq {bytes : List Byte} {length? : Option Int} {size : Nat}
    {pairs : List (Text × Text)} {header : Header}
    (h : Opens bytes length? size pairs header) :
    BigEndian.number ((bytes.drop 8).take 4) = size := by
  obtain ⟨block, rest, -, -, rfl⟩ := h.written
  have hfront : (BigEndian.bytes 4 magic
      ++ BigEndian.bytes 2 header.formatVersion
      ++ BigEndian.bytes 2 header.flags).length = 8 := by
    simp only [List.length_append, BigEndian.length_bytes]
  rw [fixedBytes, List.append_assoc, List.append_assoc, List.drop_left' hfront,
    List.take_left' (BigEndian.length_bytes _ _),
    BigEndian.number_bytes h.size_lt]

/-- **Bytes that are cut before their header ends open with none.** -/
theorem Opens.not_opens_take {bytes : List Byte} {length? limit? : Option Int}
    {size size' n : Nat} {pairs pairs' : List (Text × Text)}
    {header header' : Header} (h : Opens bytes length? size pairs header)
    (hn : n < size) : ¬ Opens (bytes.take n) limit? size' pairs' header' := by
  intro h'
  have hpresent := h'.size_le_length
  have hge := h'.size_ge
  rw [List.length_take] at hpresent
  -- the size is read from the fixed bytes, and these are not cut
  have hsize : size' = size := by
    rw [← h.number_eq, ← h'.number_eq, List.drop_take, List.take_take,
      Nat.min_eq_left (by omega)]
  omega

/-- What is no header in a file is refused as that. -/
theorem exists_fault_of_not_opens {v : Volume} {p : Path} {file : File}
    {offset : Nat} {length? : Option Int} (hopen : v.open? p = .ok file)
    (ho : isInt64 offset = true)
    (h : ∀ header size pairs,
      ¬ Opens (file.content.toBytes.drop offset) length? size pairs header) :
    ∃ fault, v.readHeader p offset length? = .error (.unsupported p fault) := by
  rw [readHeader_of_isInt64 hopen ho]
  cases hread : ofBytes (file.content.toBytes.drop offset) length? with
  | error fault => exact ⟨fault, rfl⟩
  | ok header =>
    obtain ⟨size, pairs, hopens⟩ := ofBytes_eq_ok_iff.1 hread
    exact absurd hopens (h header size pairs)

/-- **Headers are read exactly where they are.** Let a file be one that can be
opened, and its header be asked for at a position that an offset can hold.

* What is read is what the bytes at that position open with.
* If they open with no header, they are refused as none.
* A file that ends before the header does is refused so, too, wherever it
  stands and whatever length is told. -/
theorem readHeader_opens_iff (v : Volume) (p : Path) (file : File)
    (offset : Nat) (length? : Option Int) (hopen : v.open? p = .ok file)
    (ho : isInt64 offset = true) :
    let bytes := file.content.toBytes.drop offset
    (∀ header, v.readHeader p offset length? = .ok header
        ↔ ∃ size pairs, Opens bytes length? size pairs header)
      ∧ ((∀ header size pairs, ¬ Opens bytes length? size pairs header) →
        ∃ fault, v.readHeader p offset length?
          = .error (.unsupported p fault))
      ∧ ∀ header size pairs, Opens bytes length? size pairs header →
        ∀ (w : Volume) (q : Path) (cut : File) (n : Nat) (limit? : Option Int),
          w.open? q = .ok cut →
          cut.content.toBytes = file.content.toBytes.take n →
          n < offset + size →
          ∃ fault, w.readHeader q offset limit?
            = .error (.unsupported q fault) := by
  intro bytes
  refine ⟨fun header => ?_, exists_fault_of_not_opens hopen ho, ?_⟩
  · rw [readHeader_of_open? hopen ho, ofBytes_eq_ok_iff]
  · intro header size pairs h w q cut n limit? hcut hbytes hn
    have hge := h.size_ge
    refine exists_fault_of_not_opens hcut ho fun header' size' pairs' => ?_
    rw [hbytes, List.drop_take]
    exact h.not_opens_take (by omega)

/-- A block that tells one key twice and has an empty key, too. -/
def repeatingBlock : List Byte :=
  (attributeBytes [(versionKey, lit "1"), ([], lit "é"),
    (versionKey, lit "18")]).toOption.getD []

/-- A file in which a header with that block stands between other bytes. -/
def repeatingFile : File where
  content := .bytes ([7, 0]
    ++ (fixedBytes 202 1 (12 + repeatingBlock.length) ++ repeatingBlock) ++ [9])

/-- What is left of it without the last byte of the header. -/
def cutFile : File where
  content := .bytes (repeatingFile.content.toBytes.take 38)

/-- The two files beside each other. -/
def repeatingVolume : Volume where
  tree := .dir [(lit "whole", .file repeatingFile), (lit "cut", .file cutFile)]

/-- The repeated key of the sample is read with its last value, and without the
last byte of the header nothing is read. -/
theorem readHeader_opens_iff_sample :
    (∃ size pairs, Opens (repeatingFile.content.toBytes.drop 2) (some 100) size
        pairs ⟨202, 1, .ofList [(versionKey, lit "18"), ([], lit "é")]⟩)
      ∧ ∃ fault, repeatingVolume.readHeader ⟨.relative, [lit "cut"]⟩ 2 none
        = .error (.unsupported ⟨.relative, [lit "cut"]⟩ fault) := by
  obtain ⟨hread, -, hcut⟩ := readHeader_opens_iff repeatingVolume
    ⟨.relative, [lit "whole"]⟩ repeatingFile 2 (some 100) (by decide +kernel)
    (by decide)
  have hopens := (hread ⟨202, 1, .ofList [(versionKey, lit "18"),
    ([], lit "é")]⟩).1 (by decide +kernel)
  refine ⟨hopens, ?_⟩
  obtain ⟨size, pairs, h⟩ := hopens
  have hsize : size = 37 := h.number_eq.symm.trans (by decide +kernel)
  exact hcut _ size pairs h repeatingVolume ⟨.relative, [lit "cut"]⟩ cutFile 38
    none (by decide +kernel) rfl (by rw [hsize]; decide)

/-- **A position that no offset can hold** is not looked at: no header is there,
but that is not what the refusal says. Here `2 ^ 63` is the first such position;
a file system with a lower limit refuses earlier ones too, which `readHeader`
takes to be accepted. -/
theorem readHeader_outOfRange :
    repeatingVolume.open? ⟨.relative, [lit "whole"]⟩ = .ok repeatingFile
      ∧ (∀ header size pairs, ¬ Opens
        (repeatingFile.content.toBytes.drop (2 ^ 63)) none size pairs header)
      ∧ ¬ ∃ fault, repeatingVolume.readHeader ⟨.relative, [lit "whole"]⟩
          ((2 ^ 63 : Nat) : Int) none
        = .error (.unsupported ⟨.relative, [lit "whole"]⟩ fault) := by
  have hshort : repeatingFile.content.toBytes.length ≤ 2 ^ 63 := by
    decide +kernel
  refine ⟨by decide +kernel, fun header size pairs h => ?_, ?_⟩
  · have hge := h.size_ge
    have hle := h.size_le_length
    rw [List.drop_eq_nil_of_le hshort] at hle
    exact absurd (Nat.le_trans hge hle) (by decide)
  · have hread : repeatingVolume.readHeader ⟨.relative, [lit "whole"]⟩
        ((2 ^ 63 : Nat) : Int) none = .error (.improper .offsetOutOfRange) := by
      decide +kernel
    rintro ⟨fault, h⟩
    exact absurd (hread.symm.trans h) (by simp)

end Header

end Lexicon
