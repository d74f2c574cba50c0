import Lexicon.Header.Writer
import Lexicon.Proofs.Header.Fields
import Lexicon.Proofs.Outcome
import Lexicon.Proofs.Text.Numerals
import Lexicon.Proofs.Volume.Addresses

/-!
# Headers read back

A header is read back as it was written from wherever it stands in a file,
whatever surrounds it, exactly if none of its texts holds the code point zero
(`Header.readHeader_bytes_iff`). One direction follows the bytes through the
reader. The other needs nothing of what was written: attributes that were read
never hold a zero, so attributes that do are not among them.
-/

namespace Lexicon

namespace Attributes

/-- **Attributes that can be written**: no text holds a surrogate. -/
def IsEncodable (a : Attributes) : Prop :=
  ∀ e ∈ a.entries, (∀ c ∈ e.1, c.isSurrogate = false)
    ∧ ∀ c ∈ e.2, c.isSurrogate = false

/-- **Attributes without zeros**: no text holds the code point zero. -/
def HasNoZero (a : Attributes) : Prop :=
  ∀ e ∈ a.entries, (0 : CodePoint) ∉ e.1 ∧ (0 : CodePoint) ∉ e.2

instance (a : Attributes) : Decidable a.IsEncodable :=
  decidable_of_iff (a.entries.all fun e =>
      e.1.all (!·.isSurrogate) && e.2.all (!·.isSurrogate))
    (by simp [IsEncodable])

instance (a : Attributes) : Decidable a.HasNoZero :=
  inferInstanceAs (Decidable (∀ e ∈ a.entries,
    (0 : CodePoint) ∉ e.1 ∧ (0 : CodePoint) ∉ e.2))

/-! ## Attributes from pairs -/

theorem setEntry_of_not_mem {key value : Text} {entries : List (Text × Text)}
    (h : key ∉ entries.map (·.1)) :
    setEntry key value entries = entries ++ [(key, value)] := by
  induction entries with
  | nil => rfl
  | cons e rest ih =>
    rw [List.map_cons, List.mem_cons, not_or] at h
    rw [setEntry, if_neg (Ne.symm h.1), ih h.2, List.cons_append]

/-- Setting a key brings nothing but itself. -/
theorem mem_setEntry {key value : Text} {entries : List (Text × Text)}
    {e : Text × Text} (h : e ∈ setEntry key value entries) :
    e = (key, value) ∨ e ∈ entries := by
  induction entries with
  | nil => exact Or.inl (List.mem_singleton.1 h)
  | cons e' rest ih =>
    unfold setEntry at h
    split at h
    · rename_i hk
      obtain rfl | h := List.mem_cons.1 h
      · exact Or.inl (by rw [hk])
      · exact Or.inr (List.mem_cons_of_mem _ h)
    · obtain rfl | h := List.mem_cons.1 h
      · exact Or.inr List.mem_cons_self
      · exact (ih h).imp id (List.mem_cons_of_mem _)

/-- Pairs with new keys are set one behind the other. -/
theorem entries_foldl_set {pairs : List (Text × Text)} {a : Attributes}
    (h : ((a.entries ++ pairs).map (·.1)).Nodup) :
    (pairs.foldl (fun a p => a.set p.1 p.2) a).entries = a.entries ++ pairs := by
  induction pairs generalizing a with
  | nil => exact (List.append_nil _).symm
  | cons p pairs ih =>
    have hset : (a.set p.1 p.2).entries = a.entries ++ [p] := by
      refine setEntry_of_not_mem fun hmem => ?_
      rw [List.map_append, List.nodup_append] at h
      exact h.2.2 _ hmem _ List.mem_cons_self rfl
    rw [List.foldl_cons, ih, hset, List.append_assoc, List.singleton_append]
    rw [hset, List.append_assoc, List.singleton_append]
    exact h

theorem entries_ofList {pairs : List (Text × Text)}
    (h : (pairs.map (·.1)).Nodup) : (ofList pairs).entries = pairs :=
  entries_foldl_set (a := empty) h

/-- **Attributes are what their entries give.** -/
@[simp] theorem ofList_entries (a : Attributes) : ofList a.entries = a := by
  have hentries := entries_ofList a.nodup
  obtain ⟨entries, nodup⟩ := a
  exact mk.injEq .. ▸ hentries

/-- Every entry is one of the pairs that were given. -/
theorem mem_of_mem_ofList {pairs : List (Text × Text)} {e : Text × Text}
    (h : e ∈ (ofList pairs).entries) : e ∈ pairs := by
  have hfold : ∀ {pairs : List (Text × Text)} {a : Attributes},
      e ∈ (pairs.foldl (fun a p => a.set p.1 p.2) a).entries →
        e ∈ a.entries ∨ e ∈ pairs := by
    intro pairs
    induction pairs with
    | nil => exact fun h => Or.inl h
    | cons p pairs ih =>
      intro a h
      obtain h | h := ih h
      · obtain rfl | h := mem_setEntry h
        · exact Or.inr List.mem_cons_self
        · exact Or.inl h
      · exact Or.inr (List.mem_cons_of_mem _ h)
  exact (hfold h).resolve_left List.not_mem_nil

/-- The bytes of a key and its value. -/
def fieldsOf (e : Text × Text) : List Byte × List Byte :=
  (e.1.flatMap Utf8.encodeCodePoint, e.2.flatMap Utf8.encodeCodePoint)

/-- **The bytes that attributes are written in**: each key and each value
closed by a zero byte. -/
def block (a : Attributes) : List Byte :=
  ((a.entries.map fieldsOf).flatMap fun p => [p.1, p.2]).flatMap (· ++ [0])

end Attributes

namespace Header

/-! ## Attributes read back -/

/-- Fields are read as the texts that they were written from. -/
theorem mapM_decodePair?_fieldsOf {entries : List (Text × Text)}
    (h : ∀ e ∈ entries, (∀ c ∈ e.1, c.isSurrogate = false)
      ∧ ∀ c ∈ e.2, c.isSurrogate = false) :
    (entries.map Attributes.fieldsOf).mapM decodePair? = some entries := by
  induction entries with
  | nil => rfl
  | cons e rest ih =>
    obtain ⟨⟨hkey, hvalue⟩, hrest⟩ := List.forall_mem_cons.1 h
    have hpair : decodePair? (Attributes.fieldsOf e) = some e := by
      unfold decodePair? Attributes.fieldsOf
      rw [Utf8.decode?_flatMap hkey, Utf8.decode?_flatMap hvalue]
      rfl
    rw [List.map_cons, List.mapM_cons, hpair, ih hrest]
    rfl

/-- Every pair of texts was read from a pair of fields. -/
theorem exists_of_mapM_decodePair? {ps : List (List Byte × List Byte)}
    {texts : List (Text × Text)} (h : ps.mapM decodePair? = some texts) :
    ∀ e ∈ texts, ∃ p ∈ ps,
      Utf8.decode? p.1 = some e.1 ∧ Utf8.decode? p.2 = some e.2 := by
  induction ps generalizing texts with
  | nil =>
    rw [← Option.some.inj (show some [] = some texts from h)]
    exact fun e he => absurd he List.not_mem_nil
  | cons p ps ih =>
    rw [List.mapM_cons] at h
    obtain ⟨e, he, h⟩ := Option.bind_eq_some_iff.1 h
    obtain ⟨rest, hrest, h⟩ := Option.bind_eq_some_iff.1 h
    rw [← Option.some.inj (show some (e :: rest) = some texts from h),
      List.forall_mem_cons]
    constructor
    · unfold decodePair? at he
      obtain ⟨key, hkey, he⟩ := Option.bind_eq_some_iff.1 he
      obtain ⟨value, hvalue, he⟩ := Option.bind_eq_some_iff.1 he
      rw [← Option.some.inj (show some (key, value) = some e from he)]
      exact ⟨p, List.mem_cons_self, hkey, hvalue⟩
    · intro e' he'
      obtain ⟨p', hp', hread⟩ := ih hrest e' he'
      exact ⟨p', List.mem_cons_of_mem _ hp', hread⟩

/-- **Attributes that were read have no zeros.** -/
theorem hasNoZero_of_readAttributes {bytes : List Byte} {a : Attributes}
    (h : readAttributes bytes = .ok a) : a.HasNoZero := by
  unfold readAttributes at h
  split at h
  · exact absurd h (by simp)
  rename_i ps hps
  obtain ⟨fs, hfs, hps⟩ := Option.bind_eq_some_iff.1 hps
  split at h
  · exact absurd h (by simp)
  rename_i texts htexts
  rw [← Except.ok.inj h]
  intro e he
  obtain ⟨p, hp, hkey, hvalue⟩ :=
    exists_of_mapM_decodePair? htexts e (Attributes.mem_of_mem_ofList he)
  obtain ⟨h₁, h₂⟩ := mem_of_pairs? hps p hp
  exact ⟨Utf8.zero_not_mem_of_decode? (zero_not_mem_of_fields? hfs _ h₁) hkey,
    Utf8.zero_not_mem_of_decode? (zero_not_mem_of_fields? hfs _ h₂) hvalue⟩

/-- **Attributes are read back as they were written** exactly if they have no
zeros. -/
theorem readAttributes_block_iff {a : Attributes} (h : a.IsEncodable) :
    readAttributes a.block = .ok a ↔ a.HasNoZero := by
  constructor
  · exact hasNoZero_of_readAttributes
  · intro hz
    have hfields : ∀ f ∈ (a.entries.map Attributes.fieldsOf).flatMap
        (fun p => [p.1, p.2]), (0 : Byte) ∉ f := by
      intro f hf
      obtain ⟨p, hp, hf⟩ := List.mem_flatMap.1 hf
      obtain ⟨e, he, rfl⟩ := List.mem_map.1 hp
      obtain ⟨hkey, hvalue⟩ := hz e he
      simp only [List.mem_cons, List.not_mem_nil, or_false] at hf
      obtain rfl | rfl := hf
      · exact Utf8.zero_not_mem_flatMap hkey
      · exact Utf8.zero_not_mem_flatMap hvalue
    unfold readAttributes Attributes.block
    rw [fields?_flatMap hfields, Option.bind_some, pairs?_flatMap]
    dsimp only
    rw [mapM_decodePair?_fieldsOf h]
    dsimp only
    rw [Attributes.ofList_entries]

/-! ## Headers read back -/

/-- The size of the header that attributes are written in. -/
def size (a : Attributes) : Nat :=
  fixedSize + a.block.length

/-- The bytes in front of the attributes. -/
def fixedBytes (formatVersion flags size : Nat) : List Byte :=
  BigEndian.bytes 4 magic ++ BigEndian.bytes 2 formatVersion
    ++ BigEndian.bytes 2 flags ++ BigEndian.bytes 4 size

@[simp] theorem length_fixedBytes (formatVersion flags size : Nat) :
    (fixedBytes formatVersion flags size).length = fixedSize := by
  unfold fixedBytes
  simp only [List.length_append, BigEndian.length_bytes]
  rfl

theorem fieldBytes_eq {t : Text} (h : ∀ c ∈ t, c.isSurrogate = false) :
    fieldBytes t = .ok (t.flatMap Utf8.encodeCodePoint ++ [0]) := by
  unfold fieldBytes
  rw [Utf8.encode_eq_ok_iff.2 ⟨h, rfl⟩]

/-- Entries are written field by field. -/
theorem attributeBytes_eq {entries : List (Text × Text)}
    (h : ∀ e ∈ entries, (∀ c ∈ e.1, c.isSurrogate = false)
      ∧ ∀ c ∈ e.2, c.isSurrogate = false) :
    attributeBytes entries
      = .ok (((entries.map Attributes.fieldsOf).flatMap
        fun p => [p.1, p.2]).flatMap (· ++ [0])) := by
  induction entries with
  | nil => rfl
  | cons e rest ih =>
    obtain ⟨⟨hkey, hvalue⟩, hrest⟩ := List.forall_mem_cons.1 h
    rw [attributeBytes, fieldBytes_eq hkey, fieldBytes_eq hvalue, ih hrest,
      List.map_cons, List.flatMap_cons, List.flatMap_append,
      List.flatMap_cons, List.flatMap_cons, List.flatMap_nil, List.append_nil]
    rfl

/-- **The bytes of a header** are the fixed ones and those of its entries, if
the numbers fit. -/
theorem bytes_of_attributeBytes {a : Attributes} {block : List Byte}
    {formatVersion flags : Nat} (h : attributeBytes a.entries = .ok block)
    (hv : formatVersion < 2 ^ 16) (hf : flags < 2 ^ 16)
    (hs : fixedSize + block.length < 2 ^ 32) :
    bytes a formatVersion flags
      = .ok (fixedBytes formatVersion flags (fixedSize + block.length)
        ++ block) := by
  unfold bytes
  refine bind_eq_ok.2 ⟨block, h, ?_⟩
  dsimp only
  split
  · rw [Int.toNat_natCast, Int.toNat_natCast, ← fixedBytes]
    rfl
  · rename_i hfit
    exact absurd ⟨by omega, by omega, by omega, by omega, by omega⟩ hfit

theorem bytes_eq {a : Attributes} {formatVersion flags : Nat}
    (h : a.IsEncodable) (hv : formatVersion < 2 ^ 16) (hf : flags < 2 ^ 16)
    (hs : size a < 2 ^ 32) :
    bytes a formatVersion flags
      = .ok (fixedBytes formatVersion flags (size a) ++ a.block) :=
  bytes_of_attributeBytes (attributeBytes_eq h) hv hf hs

/-- **What a header says is read from its bytes**, whatever follows them and
whatever its block holds. -/
theorem ofBytes_fixedBytes {formatVersion flags : Nat} {block : List Byte}
    {length? : Option Int} (hmin : minimumFormatVersion ≤ formatVersion)
    (hv : formatVersion < 2 ^ 16) (hf : flags < 2 ^ 16)
    (hs : fixedSize + block.length < 2 ^ 32)
    (hlength : ∀ n ∈ length?, ((fixedSize + block.length : Nat) : Int) ≤ n)
    (body : List Byte) :
    ofBytes (fixedBytes formatVersion flags (fixedSize + block.length)
        ++ block ++ body) length?
      = (readAttributes block).map fun attributes =>
        ⟨formatVersion, flags, attributes⟩ := by
  generalize hbytes : fixedBytes formatVersion flags (fixedSize + block.length)
    ++ block ++ body = bytes
  have hsplit : bytes = BigEndian.bytes 4 magic
      ++ (BigEndian.bytes 2 formatVersion ++ (BigEndian.bytes 2 flags
        ++ (BigEndian.bytes 4 (fixedSize + block.length)
          ++ (block ++ body)))) := by
    rw [← hbytes, fixedBytes]
    simp only [List.append_assoc]
  have hmagic : bytes.take 4 = BigEndian.bytes 4 magic := by
    rw [hsplit, List.take_left' (BigEndian.length_bytes _ _)]
  have hdrop₄ : bytes.drop 4 = BigEndian.bytes 2 formatVersion
      ++ (BigEndian.bytes 2 flags ++ (BigEndian.bytes 4 (fixedSize + block.length)
        ++ (block ++ body))) := by
    rw [hsplit, List.drop_left' (BigEndian.length_bytes _ _)]
  have hdrop₆ : bytes.drop 6 = BigEndian.bytes 2 flags
      ++ (BigEndian.bytes 4 (fixedSize + block.length) ++ (block ++ body)) := by
    rw [show 6 = 4 + 2 from rfl, ← List.drop_drop, hdrop₄,
      List.drop_left' (BigEndian.length_bytes _ _)]
  have hdrop₈ : bytes.drop 8 = BigEndian.bytes 4 (fixedSize + block.length)
      ++ (block ++ body) := by
    rw [show 8 = 6 + 2 from rfl, ← List.drop_drop, hdrop₆,
      List.drop_left' (BigEndian.length_bytes _ _)]
  have hdrop : bytes.drop fixedSize = block ++ body := by
    rw [show fixedSize = 8 + 4 from rfl, ← List.drop_drop, hdrop₈,
      List.drop_left' (BigEndian.length_bytes _ _)]
  have hlong : ¬ bytes.length < fixedSize := by
    rw [← hbytes, List.length_append, List.length_append, length_fixedBytes]
    omega
  unfold ofBytes
  rw [hmagic, hdrop₄, hdrop₆, hdrop₈, hdrop,
    List.take_left' (BigEndian.length_bytes _ _),
    List.take_left' (BigEndian.length_bytes _ _),
    List.take_left' (BigEndian.length_bytes _ _),
    BigEndian.number_bytes (by decide), BigEndian.number_bytes hv,
    BigEndian.number_bytes hf, BigEndian.number_bytes hs]
  dsimp only
  rw [Nat.add_sub_cancel_left, List.take_left' rfl, if_neg hlong,
    if_neg (fun h => h rfl), if_neg (Nat.not_lt.2 hmin), if_neg,
    if_neg (fun h => h rfl)]
  rintro (h | h)
  · omega
  · obtain ⟨n, hn, hlt⟩ := (Option.any_eq_true _ _).1 h
    exact absurd (of_decide_eq_true hlt) (Int.not_lt.2 (hlength n hn))

/-- **A header is read from behind whatever is in front of it.** -/
theorem ofBytes_drop_iff {a : Attributes} {formatVersion flags : Nat}
    {length? : Option Int} (h : a.IsEncodable)
    (hmin : minimumFormatVersion ≤ formatVersion)
    (hv : formatVersion < 2 ^ 16) (hf : flags < 2 ^ 16) (hs : size a < 2 ^ 32)
    (hlength : ∀ n ∈ length?, (size a : Int) ≤ n) (front body : List Byte) :
    ofBytes ((front ++ (fixedBytes formatVersion flags (size a) ++ a.block)
        ++ body).drop front.length) length? = .ok ⟨formatVersion, flags, a⟩
      ↔ a.HasNoZero := by
  rw [List.append_assoc, List.drop_left, size,
    ofBytes_fixedBytes hmin hv hf hs hlength, map_eq_ok,
    ← readAttributes_block_iff h]
  constructor
  · rintro ⟨a', ha', heq⟩
    rw [ha', (Header.mk.inj heq).2.2]
  · intro ha
    exact ⟨a, ha, rfl⟩

theorem version_of_get? {header : Header} {n : Nat}
    (h : header.attributes.get? versionKey = some (Text.ofNat n))
    (hn : (Text.ofNat n).length ≤ Numeral.maxDigits) :
    header.version = n := by
  unfold version versionOf
  rw [h, Option.bind_some, Numeral.int?_ofNat hn]
  exact if_pos (Int.natCast_nonneg n)

/-- **A header is read back as it was written, from wherever it stands**,
exactly if none of its texts holds a zero: the format version, the flags and
the attributes in their order, whatever is in front and behind, if the length
that is told does not cut it off. The content version is then the number that
the attributes spell. In a file the header has to start at a position that an
offset can hold. -/
theorem readHeader_bytes_iff (a : Attributes) (formatVersion flags : Nat)
    (h : a.IsEncodable) (hmin : 2 ≤ formatVersion)
    (hv : formatVersion < 2 ^ 16) (hf : flags < 2 ^ 16)
    (hs : size a < 2 ^ 32) :
    ∃ bytes, Header.bytes a formatVersion flags = .ok bytes
      ∧ bytes.length = size a
      ∧ ∀ (front body : List Byte) (length? : Option Int),
        (∀ n ∈ length?, (size a : Int) ≤ n) →
        (ofBytes ((front ++ bytes ++ body).drop front.length) length?
            = .ok ⟨formatVersion, flags, a⟩ ↔ a.HasNoZero)
          ∧ ∀ (v : Volume) (p : Path) (file : File), v.open? p = .ok file →
            file.content.toBytes = front ++ bytes ++ body →
            isInt64 front.length = true →
            (v.readHeader p front.length length?
                = .ok ⟨formatVersion, flags, a⟩ ↔ a.HasNoZero)
              ∧ (a.HasNoZero → ∀ n : Nat,
                a.get? versionKey = some (Text.ofNat n) →
                (Text.ofNat n).length ≤ 4300 →
                ∃ header, v.readHeader p front.length length? = .ok header
                  ∧ header.version = n) := by
  refine ⟨_, bytes_eq h hv hf hs, ?_, ?_⟩
  · rw [List.length_append, length_fixedBytes]
    rfl
  intro front body length? hlength
  have hread := ofBytes_drop_iff h hmin hv hf hs hlength front body
  refine ⟨hread, ?_⟩
  intro v p file hopen hcontent hoffset
  have hfile : v.readHeader p front.length length?
      = .ok ⟨formatVersion, flags, a⟩ ↔ a.HasNoZero := by
    rw [readHeader_of_open? hopen hoffset, hcontent]
    exact hread
  exact ⟨hfile, fun hz n hn hdigits =>
    ⟨_, hfile.2 hz, version_of_get? hn hdigits⟩⟩

/-- Attributes with a content version, an empty key and an empty value. -/
def sampleAttributes : Attributes :=
  .ofList [(versionKey, lit "18"), ([], lit "é"), (localeKey, [])]

/-- A file in which a header stands between other bytes. -/
def sampleVolume : Volume where
  tree := .dir [(lit "d", .file ⟨.bytes ([7, 0] ++ (fixedBytes 202 1
    (size sampleAttributes) ++ sampleAttributes.block) ++ [9]), 0⟩)]

/-- The header of the sample is read back, and with a zero in a value it would
not be. -/
theorem readHeader_bytes_iff_sample :
    sampleAttributes.IsEncodable ∧ sampleAttributes.HasNoZero
      ∧ sampleVolume.readHeader ⟨.relative, [lit "d"]⟩ 2 (some 100)
        = .ok ⟨202, 1, sampleAttributes⟩
      ∧ (∃ header, sampleVolume.readHeader ⟨.relative, [lit "d"]⟩ 2 (some 100)
        = .ok header ∧ header.version = 18)
      ∧ ∃ bytes, Header.bytes (sampleAttributes.set [] [0]) 202 1 = .ok bytes
        ∧ ofBytes bytes none ≠ .ok ⟨202, 1, sampleAttributes.set [] [0]⟩ := by
  have hencodable : sampleAttributes.IsEncodable := by decide +kernel
  have hzero : sampleAttributes.HasNoZero := by decide +kernel
  obtain ⟨bytes, hbytes, -, hread⟩ := readHeader_bytes_iff sampleAttributes 202 1
    hencodable (by decide) (by decide) (by decide) (by decide +kernel)
  obtain rfl := Except.ok.inj (hbytes.symm.trans
    (bytes_eq hencodable (by decide) (by decide) (by decide +kernel)))
  obtain ⟨-, hfile⟩ := hread [7, 0] [9] (some 100) (by decide +kernel)
  obtain ⟨hheader, hversion⟩ := hfile sampleVolume ⟨.relative, [lit "d"]⟩
    ⟨.bytes ([7, 0] ++ (fixedBytes 202 1 (size sampleAttributes)
      ++ sampleAttributes.block) ++ [9]), 0⟩
    (by decide +kernel) rfl (by decide)
  obtain ⟨bytes, hbytes, -, hread⟩ :=
    readHeader_bytes_iff (sampleAttributes.set [] [0]) 202 1
      (by decide +kernel) (by decide) (by decide) (by decide) (by decide +kernel)
  obtain ⟨hnone, -⟩ := hread [] [] none (by decide)
  rw [List.append_nil, List.nil_append, List.length_nil, List.drop_zero]
    at hnone
  exact ⟨hencodable, hzero, hheader.2 hzero,
    hversion hzero 18 (by decide +kernel) (by decide +kernel), bytes, hbytes,
    fun h => absurd (hnone.1 h) (by decide +kernel)⟩

end Header

end Lexicon
