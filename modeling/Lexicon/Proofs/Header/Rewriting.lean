import Mathlib.Data.List.Nodup
import Lexicon.Proofs.Header.Grammar

/-!
# Headers written again

A header that was read and is written again has the bytes that it was read
from, since texts have one encoding and numbers one form in a field – unless
its block repeats a key. Attributes hold a key once, so what is written then is
shorter by the pairs that are gone, and says the same
(`Header.readHeader_rewritten`).

The lengths are compared pair by pair: setting a key adds at most the length of
its pair, and less than that where the key was set before
(`Attributes.sum_ofList_le`).
-/

namespace Lexicon

namespace Attributes

/-! ## Sizes of attributes -/

variable {width : Text × Text → Nat}

theorem sum_setEntry_of_not_mem {key : Text} (value : Text)
    {entries : List (Text × Text)} (h : key ∉ entries.map (·.1)) :
    ((setEntry key value entries).map width).sum
      = (entries.map width).sum + width (key, value) := by
  rw [setEntry_of_not_mem h, List.map_append, List.sum_append,
    List.map_singleton, List.sum_singleton]

/-- Setting a key again takes away the width of the pair that was there. -/
theorem sum_setEntry_lt (hw : ∀ e, 0 < width e) {key : Text} (value : Text)
    {entries : List (Text × Text)} (h : key ∈ entries.map (·.1)) :
    ((setEntry key value entries).map width).sum
      < (entries.map width).sum + width (key, value) := by
  induction entries with
  | nil => exact absurd h List.not_mem_nil
  | cons e rest ih =>
    obtain ⟨key', value'⟩ := e
    have he := hw (key', value')
    unfold setEntry
    by_cases hk : key' = key
    · subst hk
      rw [if_pos rfl, List.map_cons, List.map_cons, List.sum_cons,
        List.sum_cons]
      omega
    · rw [List.map_cons, List.mem_cons, or_iff_right (Ne.symm hk)] at h
      rw [if_neg hk, List.map_cons, List.map_cons, List.sum_cons,
        List.sum_cons]
      have hrest := ih h
      omega

/-- **Attributes are no wider than the pairs that they are collected from**, and
less wide where a key is repeated. -/
theorem sum_ofList_le (hw : ∀ e, 0 < width e) (pairs : List (Text × Text)) :
    ((ofList pairs).entries.map width).sum ≤ (pairs.map width).sum
      ∧ (¬ (pairs.map (·.1)).Nodup →
        ((ofList pairs).entries.map width).sum < (pairs.map width).sum) := by
  induction pairs using List.reverseRecOn with
  | nil => exact ⟨Nat.le_refl _, fun h => absurd List.nodup_nil h⟩
  | append_singleton pairs p ih =>
    obtain ⟨key, value⟩ := p
    have hset : (ofList (pairs ++ [(key, value)])).entries
        = setEntry key value (ofList pairs).entries :=
      congrArg entries (List.foldl_append : ofList (pairs ++ [_]) = _)
    have hmem : key ∈ (ofList pairs).entries.map (·.1)
        ↔ key ∈ pairs.map (·.1) := by
      rw [(collects_ofList pairs).keys_eq, List.mem_eraseDups]
    rw [hset, List.map_append, List.sum_append, List.map_singleton,
      List.sum_singleton]
    by_cases hk : key ∈ pairs.map (·.1)
    · have hlt := sum_setEntry_lt hw value (hmem.2 hk)
      have hle := ih.1
      exact ⟨by omega, fun _ => by omega⟩
    · have heq : ((setEntry key value (ofList pairs).entries).map width).sum
          = _ := sum_setEntry_of_not_mem value (mt hmem.1 hk)
      have hle := ih.1
      refine ⟨by omega, fun hn => ?_⟩
      -- the key is new, so the repetition is among the pairs before it
      have hlt := ih.2 fun hd => hn (by
        rw [List.map_append, List.map_singleton, ← List.concat_eq_append]
        exact List.Nodup.concat hk hd)
      omega

end Attributes

namespace Header

/-! ## Blocks written again -/

/-- The bytes that a pair takes in a block. -/
def pairLength (p : Text × Text) : Nat :=
  (p.1.flatMap Utf8.encodeCodePoint).length
    + (p.2.flatMap Utf8.encodeCodePoint).length + 2

/-- **A text that a field can hold**: it can be written, without a zero. -/
def IsFieldText (t : Text) : Prop :=
  ∃ bytes, Utf8.encode t = .ok bytes ∧ (0 : Byte) ∉ bytes

namespace IsBlock

variable {block : List Byte} {pairs : List (Text × Text)}

/-- **A block is what its pairs are written as.** -/
theorem attributeBytes_eq (h : IsBlock block pairs) :
    attributeBytes pairs = .ok block := by
  induction h with
  | nil => rfl
  | @cons key value k v rest pairs hkey _ hvalue _ _ ih =>
    rw [attributeBytes, fieldBytes, hkey, fieldBytes, hvalue, ih]
    dsimp only [bind, Except.bind, pure, Except.pure]
    rw [List.append_assoc, List.append_assoc, List.append_assoc]
    rfl

theorem length_eq (h : IsBlock block pairs) :
    block.length = (pairs.map pairLength).sum := by
  induction h with
  | nil => rfl
  | @cons key value k v rest pairs hkey _ hvalue _ _ ih =>
    rw [List.map_cons, List.sum_cons, ← ih, pairLength,
      (Utf8.encode_eq_ok_iff.1 hkey).2, (Utf8.encode_eq_ok_iff.1 hvalue).2]
    simp only [List.length_append, List.length_cons]
    omega

/-- **Texts that fields can hold** make up a block, and no others do. -/
theorem exists_iff {pairs : List (Text × Text)} :
    (∃ block, IsBlock block pairs)
      ↔ ∀ p ∈ pairs, IsFieldText p.1 ∧ IsFieldText p.2 := by
  constructor
  · rintro ⟨block, h⟩
    induction h with
    | nil => exact fun p hp => absurd hp List.not_mem_nil
    | cons hkey hk hvalue hv _ ih =>
      exact List.forall_mem_cons.2 ⟨⟨⟨_, hkey, hk⟩, ⟨_, hvalue, hv⟩⟩, ih⟩
  · intro h
    induction pairs with
    | nil => exact ⟨[], .nil⟩
    | cons p pairs ih =>
      obtain ⟨⟨⟨k, hkey, hk⟩, ⟨v, hvalue, hv⟩⟩, hrest⟩ :=
        List.forall_mem_cons.1 h
      obtain ⟨rest, hblock⟩ := ih hrest
      exact ⟨_, .cons hkey hk hvalue hv hblock⟩

end IsBlock

/-! ## Headers written again -/

namespace Opens

variable {bytes block : List Byte} {length? : Option Int} {size : Nat}
  {pairs : List (Text × Text)} {header : Header}

/-- **What a header that was read is written as**: its fixed bytes with the size
of the new block, and that block. -/
theorem bytes_eq (h : Opens bytes length? size pairs header)
    (hblock : IsBlock block header.attributes.entries)
    (hle : fixedSize + block.length ≤ size) :
    Header.bytes header.attributes header.formatVersion header.flags
      = .ok (fixedBytes header.formatVersion header.flags
        (fixedSize + block.length) ++ block) :=
  bytes_of_attributeBytes hblock.attributeBytes_eq h.formatVersion_lt
    h.flags_lt (Nat.lt_of_le_of_lt hle h.size_lt)

/-- **What it is written as says the same.** -/
theorem opens_bytes (h : Opens bytes length? size pairs header)
    (hblock : IsBlock block header.attributes.entries)
    (hle : fixedSize + block.length ≤ size) {limit? : Option Int}
    (hlimit : ∀ n ∈ limit?, ((fixedSize + block.length : Nat) : Int) ≤ n)
    (body : List Byte) :
    Opens (fixedBytes header.formatVersion header.flags
      (fixedSize + block.length) ++ block ++ body) limit?
      (fixedSize + block.length) header.attributes.entries header where
  formatVersion_ge := h.formatVersion_ge
  formatVersion_lt := h.formatVersion_lt
  flags_lt := h.flags_lt
  size_lt := Nat.lt_of_le_of_lt hle h.size_lt
  size_le := hlimit
  written := ⟨block, body, rfl, hblock, rfl⟩
  collects := Attributes.collects_iff.2 (Attributes.ofList_entries _)

/-- **The new block is no longer than the old one**, which it is where no key is
repeated, and shorter where one is. -/
theorem exists_block (h : Opens bytes length? size pairs header) :
    ∃ block, IsBlock block header.attributes.entries
      ∧ fixedSize + block.length ≤ size
      ∧ ((pairs.map (·.1)).Nodup → bytes.take size
        = fixedBytes header.formatVersion header.flags
          (fixedSize + block.length) ++ block)
      ∧ (¬ (pairs.map (·.1)).Nodup → fixedSize + block.length < size) := by
  obtain ⟨old, rest, hsize, hold, hbytes⟩ := h.written
  have hlist := Attributes.collects_iff.1 h.collects
  have hfields := IsBlock.exists_iff.1 ⟨old, hold⟩
  obtain ⟨block, hblock⟩ := IsBlock.exists_iff.2 fun e he =>
    hfields e (Attributes.mem_of_mem_ofList (hlist ▸ he))
  have hpair : ∀ p, 0 < pairLength p := fun p => Nat.succ_pos _
  have hwidth := Attributes.sum_ofList_le hpair pairs
  rw [hlist, ← hblock.length_eq, ← hold.length_eq] at hwidth
  have hfixed : fixedSize = 12 := rfl
  refine ⟨block, hblock, by omega, fun hd => ?_, fun hd => ?_⟩
  · have hentries : header.attributes.entries = pairs := by
      rw [← hlist, Attributes.entries_ofList hd]
    -- one list of pairs is written as one block
    have hsame : block = old := Except.ok.inj
      ((hentries ▸ hblock.attributeBytes_eq).symm.trans hold.attributeBytes_eq)
    have hwhole : fixedSize + block.length = size := by rw [hsame, hsize, hfixed]
    rw [hbytes, hwhole, hsame]
    exact List.take_left' (by
      rw [List.length_append, length_fixedBytes, hsize, hfixed])
  · have hlt := hwidth.2 hd
    omega

end Opens

/-- **A header that was read is written again as it was**, byte by byte up to
its size, if its block repeats no key. If it repeats one, the header that is
written is shorter, and read from the front of any file it is the same
header. -/
theorem readHeader_rewritten (v : Volume) (p : Path) (offset : Int)
    (length? : Option Int) (header : Header)
    (h : v.readHeader p offset length? = .ok header) :
    ∃ file, v.open? p = .ok file
      ∧ (∃ size pairs, Opens (file.content.toBytes.drop offset.toNat) length?
        size pairs header)
      ∧ ∀ size pairs, Opens (file.content.toBytes.drop offset.toNat) length?
        size pairs header →
        ((pairs.map (·.1)).Nodup →
          bytes header.attributes header.formatVersion header.flags
            = .ok ((file.content.toBytes.drop offset.toNat).take size))
        ∧ (¬ (pairs.map (·.1)).Nodup →
          ∃ again, bytes header.attributes header.formatVersion header.flags
              = .ok again
            ∧ again.length < size
            ∧ ∀ (w : Volume) (q : Path) (copy : File) (body : List Byte)
              (limit? : Option Int), w.open? q = .ok copy →
              copy.content.toBytes = again ++ body →
              (∀ n ∈ limit?, (again.length : Int) ≤ n) →
              w.readHeader q 0 limit? = .ok header) := by
  obtain ⟨file, hopen, hread⟩ := exists_of_readHeader h
  refine ⟨file, hopen, ofBytes_eq_ok_iff.1 hread, fun size pairs hopens => ?_⟩
  obtain ⟨block, hblock, hle, hsame, hshorter⟩ := hopens.exists_block
  have hbytes := hopens.bytes_eq hblock hle
  constructor
  · intro hd
    rw [hbytes, hsame hd]
  · intro hd
    have hlength : (fixedBytes header.formatVersion header.flags
        (fixedSize + block.length) ++ block).length
        = fixedSize + block.length := by
      rw [List.length_append, length_fixedBytes]
    refine ⟨_, hbytes, by rw [hlength]; exact hshorter hd, ?_⟩
    intro w q copy body limit? hcopy hcontent hlimit
    rw [hlength] at hlimit
    have hstart : isInt64 ((0 : Nat) : Int) = true := by decide
    refine (readHeader_of_open? hcopy hstart).2 ?_
    rw [List.drop_zero, hcontent]
    exact ofBytes_eq_ok_iff.2 ⟨_, _, hopens.opens_bytes hblock hle hlimit body⟩

/-- The header of the sample, which says its version twice. -/
def repeatedHeader : Header where
  formatVersion := 202
  flags := 1
  attributes := .ofList [(versionKey, lit "18"), ([], lit "é")]

/-- It is not written as it was read, so its block repeats a key. It is written
shorter, and read again from the front of a file it is the same header. -/
theorem readHeader_rewritten_sample :
    ∃ again, bytes repeatedHeader.attributes 202 1 = .ok again
      ∧ again.length < 37
      ∧ (Volume.mk (.dir [(lit "copy",
          .file ⟨.bytes (again ++ [0xFF]), 0⟩)]) {}).readHeader
        ⟨.relative, [lit "copy"]⟩ 0 none = .ok repeatedHeader := by
  obtain ⟨file, hopen, ⟨size, pairs, h⟩, hrewritten⟩ :=
    readHeader_rewritten repeatingVolume ⟨.relative, [lit "whole"]⟩ 2 (some 100)
      repeatedHeader (by decide +kernel)
  obtain rfl : repeatingFile = file :=
    Except.ok.inj (.trans (by decide +kernel) hopen)
  obtain rfl : 37 = size := .trans (by decide +kernel) h.number_eq
  have hrepeats : ¬ (pairs.map (·.1)).Nodup := fun hd =>
    absurd ((hrewritten 37 pairs h).1 hd) (by decide +kernel)
  obtain ⟨again, hbytes, hshorter, hread⟩ := (hrewritten 37 pairs h).2 hrepeats
  exact ⟨again, hbytes, hshorter,
    hread _ _ _ [0xFF] none rfl rfl fun _ hn => absurd hn (by simp)⟩

end Header

end Lexicon
