import Lexicon.Proofs.Outcome
import Lexicon.Text.Utf8.Escaped
import Lexicon.Text.Utf8.RoundTrip

/-!
# Names that are shown as they are spelled

The bytes of a name show it again, code point by code point: what a directory
shows for the bytes of the first code point is that code point, and what is
left over are the bytes of the others. So a name that is shown as it is spelled
can be cut anywhere, and what is behind the cut is shown as it is spelled, too
(`Utf8.respell_of_append`).

Whatever bytes are shown as a name, the name has those bytes
(`Utf8.encodeName_decodeName`). So a name that a directory shows is shown as it
is spelled (`Utf8.respell_respell`).
-/

namespace Lexicon.Utf8

/-- A code point that was read is no surrogate. -/
theorem isSurrogate_of_codePoint? {least n : Nat} {c : CodePoint}
    (h : codePoint? least n = some c) : c.isSurrogate = false := by
  unfold codePoint? at h
  split at h
  · rename_i hn
    unfold CodePoint.ofNat? at h
    split at h
    · rw [← Option.some.inj h]
      unfold CodePoint.isSurrogate
      simpa using hn.2
    · exact absurd h (by simp)
  · exact absurd h (by simp)

/-- **What is read holds no surrogates.** -/
theorem isSurrogate_of_decodeFrom? {p : Pending} {bytes : List Byte} {t : Text}
    (h : decodeFrom? p bytes = some t) : ∀ c ∈ t, c.isSurrogate = false := by
  induction bytes generalizing p t with
  | nil =>
    unfold decodeFrom? at h
    split at h
    · rw [← Option.some.inj h]
      exact fun c hc => absurd hc List.not_mem_nil
    · exact absurd h (by simp)
  | cons b rest ih =>
    unfold decodeFrom? at h
    split at h
    · exact absurd h (by simp)
    · split at h
      · obtain ⟨c, hc, h⟩ := Option.bind_eq_some_iff.1 h
        obtain ⟨more, hmore, rfl⟩ := Option.map_eq_some_iff.1 h
        exact List.forall_mem_cons.2 ⟨isSurrogate_of_codePoint? hc, ih hmore⟩
      · exact ih h

/-- What opens a name is no surrogate. -/
theorem isSurrogate_of_opened? {b : Byte} {rest : List Byte} {c : CodePoint}
    {taken : Nat} (h : opened? b rest = some (c, taken)) :
    c.isSurrogate = false := by
  unfold opened? at h
  split at h
  · exact absurd h (by simp)
  · split at h
    · rename_i d hd
      obtain ⟨rfl, -⟩ := Prod.mk.inj (Option.some.inj h)
      exact isSurrogate_of_decodeFrom? hd d (List.mem_singleton_self d)
    · exact absurd h (by simp)

/-- **The first byte of a code point tells how many follow**, and is no byte
that shows a surrogate below the escaped bytes. -/
theorem exists_lead_encodeCodePoint (c : CodePoint) :
    ∃ b more p, encodeCodePoint c = b :: more ∧ lead? b = some p
      ∧ p.owed = more.length ∧ (c.isSurrogate = true → 0x80 ≤ b.toNat) := by
  have hc := c.isLt
  unfold encodeCodePoint
  dsimp only
  split
  · rename_i h
    have hb : (UInt8.ofNat c.val).toNat = c.val := by simp; omega
    refine ⟨_, _, _, rfl, by rw [lead?, hb, if_pos h], rfl, fun hs => ?_⟩
    unfold CodePoint.isSurrogate at hs
    simp at hs
    omega
  split
  · have hb : (UInt8.ofNat (0xC0 + c.val / 0x40)).toNat
        = 0xC0 + c.val / 0x40 := by simp; omega
    refine ⟨_, _, ⟨1, (0xC0 + c.val / 0x40) % 0x20, 0x80⟩, rfl, ?_, rfl,
      fun _ => by omega⟩
    rw [lead?, hb, if_neg (by omega), if_neg (by omega), if_pos (by omega)]
  split
  · have hb : (UInt8.ofNat (0xE0 + c.val / 0x1000)).toNat
        = 0xE0 + c.val / 0x1000 := by simp; omega
    refine ⟨_, _, ⟨2, (0xE0 + c.val / 0x1000) % 0x10, 0x800⟩, rfl, ?_, rfl,
      fun _ => by omega⟩
    rw [lead?, hb, if_neg (by omega), if_neg (by omega), if_neg (by omega),
      if_pos (by omega)]
  · have hb : (UInt8.ofNat (0xF0 + c.val / 0x40000)).toNat
        = 0xF0 + c.val / 0x40000 := by simp; omega
    refine ⟨_, _, ⟨3, (0xF0 + c.val / 0x40000) % 0x08, 0x10000⟩, rfl, ?_, rfl,
      fun _ => by omega⟩
    rw [lead?, hb, if_neg (by omega), if_neg (by omega), if_neg (by omega),
      if_neg (by omega), if_pos (by omega)]

theorem isSurrogate_of_isEscapedByte {c : CodePoint}
    (h : c.isEscapedByte = true) : c.isSurrogate = true := by
  unfold CodePoint.isEscapedByte at h
  unfold CodePoint.isSurrogate
  simp at h ⊢
  omega

/-- **If the bytes of a code point show it, the bytes behind show what
follows.** -/
theorem decodeName_of_nameBytes {c : CodePoint} {bytes : List Byte} {t : Text}
    (h : decodeName (nameBytes c ++ bytes) = c :: t) : decodeName bytes = t := by
  by_cases he : c.isEscapedByte = true
  · unfold nameBytes at h
    rw [if_pos he, List.singleton_append, decodeName] at h
    split at h
    · rename_i d taken hd
      obtain ⟨rfl, -⟩ := List.cons.inj h
      have hs := isSurrogate_of_opened? hd
      rw [isSurrogate_of_isEscapedByte he] at hs
      exact absurd hs (by simp)
    · exact (List.cons.inj h).2
  · obtain ⟨b, more, p, hb, hp, howed, hlead⟩ := exists_lead_encodeCodePoint c
    unfold nameBytes at h
    rw [if_neg he, hb, List.cons_append, decodeName] at h
    split at h
    · rename_i d taken hd
      -- as many bytes were taken as the first one owes
      have htaken : taken = more.length := by
        unfold opened? at hd
        rw [hp] at hd
        dsimp only at hd
        split at hd
        · rw [← (Prod.mk.inj (Option.some.inj hd)).2, howed]
        · exact absurd hd (by simp)
      rw [htaken, List.drop_left] at h
      exact (List.cons.inj h).2
    · -- a byte that opens nothing shows an escaped byte, which this is not
      have hbyte : escapedByte b = c := (List.cons.inj h).1
      have hlt := b.toNat_lt
      have hval : c.val = 0xDC00 + b.toNat := by rw [← hbyte]; rfl
      have hs : c.isSurrogate = true := by
        unfold CodePoint.isSurrogate
        simp [hval]
        omega
      have hge := hlead hs
      exact absurd (show c.isEscapedByte = true by
        unfold CodePoint.isEscapedByte
        simp [hval]
        omega) he

/-- **The rest of a name that is shown as it is spelled** is so, too. -/
theorem respell_of_append {s t : Text} (h : respell (s ++ t) = s ++ t) :
    respell t = t := by
  by_cases ht : t.any CodePoint.isEscapedByte = true
  · have hst : (s ++ t).any CodePoint.isEscapedByte = true := by
      rw [List.any_append, ht, Bool.or_true]
    unfold respell at h ⊢
    rw [if_pos hst] at h
    rw [if_pos ht]
    clear hst ht
    induction s with
    | nil => exact h
    | cons c rest ih =>
      rw [List.cons_append, encodeName, List.flatMap_cons] at h
      exact ih (decodeName_of_nameBytes h)
  · unfold respell
    rw [if_neg ht]

/-! ## Bytes that are shown and spelled again -/

/-- The code point of a number is the one of that number. -/
theorem val_of_codePoint? {least n : Nat} {c : CodePoint}
    (h : codePoint? least n = some c) : least ≤ c.val ∧ c.val = n := by
  unfold codePoint? at h
  split at h
  · rename_i hn
    unfold CodePoint.ofNat? at h
    split at h
    · rw [← Option.some.inj h]
      exact ⟨hn.1, rfl⟩
    · exact absurd h (by simp)
  · exact absurd h (by simp)

/-- **What a first byte opens**, by its range. -/
theorem lead?_eq_some {b : Byte} {p : Pending} (h : lead? b = some p) :
    (b.toNat < 0x80 ∧ p = ⟨0, b.toNat, 0⟩)
      ∨ (0xC0 ≤ b.toNat ∧ b.toNat < 0xE0 ∧ p = ⟨1, b.toNat % 0x20, 0x80⟩)
      ∨ (0xE0 ≤ b.toNat ∧ b.toNat < 0xF0 ∧ p = ⟨2, b.toNat % 0x10, 0x800⟩)
      ∨ (0xF0 ≤ b.toNat ∧ b.toNat < 0xF8
        ∧ p = ⟨3, b.toNat % 0x08, 0x10000⟩) := by
  unfold lead? at h
  dsimp only at h
  split at h
  · exact Or.inl ⟨‹_›, (Option.some.inj h).symm⟩
  split at h
  · exact absurd h (by simp)
  split at h
  · exact Or.inr (Or.inl ⟨by omega, ‹_›, (Option.some.inj h).symm⟩)
  split at h
  · exact Or.inr (Or.inr (Or.inl ⟨by omega, ‹_›, (Option.some.inj h).symm⟩))
  split at h
  · exact Or.inr (Or.inr (Or.inr ⟨by omega, ‹_›, (Option.some.inj h).symm⟩))
  · exact absurd h (by simp)

/-- A byte that goes on with a code point is told by its six bits. -/
theorem continuation_of_isContinuation {d : Byte} {n : Nat}
    (hd : isContinuation d = true) (hn : n % 0x40 = d.toNat % 0x40) :
    continuation n = d := by
  unfold isContinuation at hd
  simp only [Bool.and_eq_true, decide_eq_true_eq] at hd
  apply UInt8.toNat_inj.1
  rw [toNat_continuation]
  omega

/-- A byte that was read where more are owed goes on with the code point. -/
theorem of_decodeFrom?_cons {owed value least : Nat} {d : Byte}
    {rest : List Byte} {t : Text}
    (h : decodeFrom? ⟨owed + 2, value, least⟩ (d :: rest) = some t) :
    isContinuation d = true
      ∧ decodeFrom? ⟨owed + 1, value * 0x40 + d.toNat % 0x40, least⟩ rest
        = some t := by
  rw [decodeFrom?, step?] at h
  dsimp only at h
  cases hd : isContinuation d with
  | false =>
    rw [hd] at h
    exact absurd h (by simp)
  | true =>
    rw [hd] at h
    exact ⟨rfl, by simpa using h⟩

/-- The byte that was owed last completes the code point. -/
theorem of_decodeFrom?_last {value least : Nat} {d : Byte} {rest : List Byte}
    {c : CodePoint} {t : Text}
    (h : decodeFrom? ⟨1, value, least⟩ (d :: rest) = some (c :: t)) :
    isContinuation d = true ∧ least ≤ c.val
      ∧ c.val = value * 0x40 + d.toNat % 0x40 := by
  rw [decodeFrom?, step?] at h
  dsimp only at h
  cases hd : isContinuation d with
  | false =>
    rw [hd] at h
    exact absurd h (by simp)
  | true =>
    rw [hd] at h
    obtain ⟨c', hc, h⟩ := Option.bind_eq_some_iff.1 h
    obtain ⟨t', -, h⟩ := Option.map_eq_some_iff.1 h
    obtain ⟨rfl, -⟩ := List.cons.inj h
    exact ⟨rfl, val_of_codePoint? hc⟩

/-- What opens a name was read from the bytes that the first one asks for. -/
theorem exists_lead_of_opened? {b : Byte} {rest : List Byte} {c : CodePoint}
    {taken : Nat} (h : opened? b rest = some (c, taken)) :
    ∃ p, lead? b = some p ∧ taken = p.owed
      ∧ decode? (b :: rest.take p.owed) = some [c] := by
  unfold opened? at h
  split at h
  · exact absurd h (by simp)
  · rename_i p hp
    split at h
    · rename_i d hd
      obtain ⟨rfl, rfl⟩ := Prod.mk.inj (Option.some.inj h)
      exact ⟨p, hp, rfl, hd⟩
    · exact absurd h (by simp)

/-- **The bytes that were read for a code point are its bytes.** -/
theorem encodeCodePoint_of_opened? {b : Byte} {rest : List Byte}
    {c : CodePoint} {taken : Nat} (h : opened? b rest = some (c, taken)) :
    encodeCodePoint c = b :: rest.take taken := by
  obtain ⟨p, hp, rfl, hd⟩ := exists_lead_of_opened? h
  rw [decode?, decodeFrom?, step?, hp] at hd
  dsimp only at hd
  have hlt := b.toNat_lt
  -- the range of the first byte tells how many bytes were read
  obtain ⟨hb, rfl⟩ | ⟨hb, hb', rfl⟩ | ⟨hb, hb', rfl⟩ | ⟨hb, hb', rfl⟩ :=
    lead?_eq_some hp
  · obtain ⟨c', hc, hd⟩ := Option.bind_eq_some_iff.1 hd
    obtain ⟨t', -, hd⟩ := Option.map_eq_some_iff.1 hd
    obtain ⟨rfl, -⟩ := List.cons.inj hd
    obtain ⟨-, hval⟩ := val_of_codePoint? hc
    unfold encodeCodePoint
    dsimp only at hval ⊢
    rw [if_pos (by omega), hval, UInt8.ofNat_toNat, List.take_zero]
  · dsimp only at hd ⊢
    rw [if_neg (Nat.succ_ne_zero 0)] at hd
    rcases rest with - | ⟨d₁, rest⟩
    · exact absurd hd (by simp [decodeFrom?])
    obtain ⟨h₁, hleast, hval⟩ := of_decodeFrom?_last hd
    have hlead : UInt8.ofNat (0xC0 + c.val / 0x40) = b := by
      apply UInt8.toNat_inj.1
      rw [UInt8.toNat_ofNat']
      omega
    unfold encodeCodePoint
    dsimp only
    rw [if_neg (by omega), if_pos (by omega), hlead,
      continuation_of_isContinuation h₁ (by omega)]
    rfl
  · dsimp only at hd ⊢
    rw [if_neg (Nat.succ_ne_zero 1)] at hd
    rcases rest with - | ⟨d₁, - | ⟨d₂, rest⟩⟩
    · exact absurd hd (by simp [decodeFrom?])
    · obtain ⟨-, hd⟩ := of_decodeFrom?_cons hd
      exact absurd hd (by simp [decodeFrom?])
    obtain ⟨h₁, hd⟩ := of_decodeFrom?_cons hd
    obtain ⟨h₂, hleast, hval⟩ := of_decodeFrom?_last hd
    have hlead : UInt8.ofNat (0xE0 + c.val / 0x1000) = b := by
      apply UInt8.toNat_inj.1
      rw [UInt8.toNat_ofNat']
      omega
    unfold encodeCodePoint
    dsimp only
    rw [if_neg (by omega), if_neg (by omega), if_pos (by omega), hlead,
      continuation_of_isContinuation h₁ (by omega),
      continuation_of_isContinuation h₂ (by omega)]
    rfl
  · dsimp only at hd ⊢
    rw [if_neg (Nat.succ_ne_zero 2)] at hd
    rcases rest with - | ⟨d₁, - | ⟨d₂, - | ⟨d₃, rest⟩⟩⟩
    · exact absurd hd (by simp [decodeFrom?])
    · obtain ⟨-, hd⟩ := of_decodeFrom?_cons hd
      exact absurd hd (by simp [decodeFrom?])
    · obtain ⟨-, hd⟩ := of_decodeFrom?_cons hd
      obtain ⟨-, hd⟩ := of_decodeFrom?_cons hd
      exact absurd hd (by simp [decodeFrom?])
    obtain ⟨h₁, hd⟩ := of_decodeFrom?_cons hd
    obtain ⟨h₂, hd⟩ := of_decodeFrom?_cons hd
    obtain ⟨h₃, hleast, hval⟩ := of_decodeFrom?_last hd
    have hlead : UInt8.ofNat (0xF0 + c.val / 0x40000) = b := by
      apply UInt8.toNat_inj.1
      rw [UInt8.toNat_ofNat']
      omega
    unfold encodeCodePoint
    dsimp only
    rw [if_neg (by omega), if_neg (by omega), if_neg (by omega), hlead,
      continuation_of_isContinuation h₁ (by omega),
      continuation_of_isContinuation h₂ (by omega),
      continuation_of_isContinuation h₃ (by omega)]
    rfl

/-- A byte that opens nothing is shown by a code point of its own. -/
theorem nameBytes_escapedByte {b : Byte} {rest : List Byte}
    (h : opened? b rest = none) : nameBytes (escapedByte b) = [b] := by
  have hlt := b.toNat_lt
  have hval : (escapedByte b).val = 0xDC00 + b.toNat := rfl
  have hhigh : 0x80 ≤ b.toNat := by
    refine Nat.le_of_not_lt fun hlow => ?_
    have hlead : lead? b = some ⟨0, b.toNat, 0⟩ := by
      rw [lead?, if_pos (by omega)]
    have hread : ∃ c, decode? [b] = some [c] := by
      refine ⟨⟨b.toNat, by omega⟩, ?_⟩
      rw [decode?, decodeFrom?, step?, hlead]
      dsimp only
      rw [if_pos rfl, codePoint?, if_pos ⟨Nat.zero_le _, by omega⟩,
        CodePoint.ofNat?, dif_pos (by omega)]
      rfl
    obtain ⟨c, hc⟩ := hread
    unfold opened? at h
    rw [hlead] at h
    dsimp only at h
    rw [List.take_zero, hc] at h
    exact absurd h (by simp)
  have hescaped : (escapedByte b).isEscapedByte = true := by
    unfold CodePoint.isEscapedByte
    simp [hval]
    omega
  rw [nameBytes, if_pos hescaped, hval, Nat.add_sub_cancel_left,
    UInt8.ofNat_toNat]

/-- **The name that bytes show has those bytes.** -/
theorem encodeName_decodeName (bytes : List Byte) :
    encodeName (decodeName bytes) = bytes := by
  fun_induction decodeName bytes with
  | case1 => rfl
  | case2 b rest c taken hopened ih =>
    have hplain : ¬ c.isEscapedByte = true := by
      intro he
      have hs := isSurrogate_of_opened? hopened
      rw [isSurrogate_of_isEscapedByte he] at hs
      exact absurd hs (by simp)
    rw [encodeName, List.flatMap_cons, ← encodeName, ih, nameBytes,
      if_neg hplain, encodeCodePoint_of_opened? hopened, List.cons_append,
      List.take_append_drop]
  | case3 b rest hopened ih =>
    rw [encodeName, List.flatMap_cons, ← encodeName, ih,
      nameBytes_escapedByte hopened, List.singleton_append]

/-- A name has the bytes of the name that a directory shows for it. -/
@[simp] theorem encodeName_respell (name : Text) :
    encodeName (respell name) = encodeName name := by
  unfold respell
  split
  · exact encodeName_decodeName _
  · rfl

/-- **What a directory shows is shown as it is spelled.** -/
@[simp] theorem respell_respell (name : Text) :
    respell (respell name) = respell name := by
  by_cases h : (respell name).any CodePoint.isEscapedByte = true
  · by_cases hn : name.any CodePoint.isEscapedByte = true
    · have hshown : respell name = decodeName (encodeName name) := if_pos hn
      rw [respell, if_pos h, encodeName_respell, ← hshown]
    · have hshown : respell name = name := if_neg hn
      rw [hshown, hshown]
  · exact if_neg h

/-! ## Names in ASCII -/

theorem nameBytes_of_ascii {c : CodePoint} (h : c.val < 0x80) :
    nameBytes c = [UInt8.ofNat c.val] := by
  unfold nameBytes encodeCodePoint
  rw [if_neg, if_pos h]
  unfold CodePoint.isEscapedByte
  simp
  omega

/-- An ASCII name has as many bytes as code points. -/
theorem length_encodeName_of_ascii {name : Text}
    (h : ∀ c ∈ name, c.val < 0x80) :
    (encodeName name).length = name.length := by
  induction name with
  | nil => rfl
  | cons c rest ih =>
    obtain ⟨hc, hrest⟩ := List.forall_mem_cons.1 h
    rw [encodeName, List.flatMap_cons, ← encodeName, nameBytes_of_ascii hc,
      List.length_append, ih hrest, List.length_singleton, List.length_cons,
      Nat.add_comm]

/-- **No other name is shown as an ASCII name.** -/
theorem eq_of_respell_eq {name shown : Text} (hs : ∀ c ∈ shown, c.val < 0x80)
    (h : respell name = shown) : name = shown := by
  by_cases hn : name.any CodePoint.isEscapedByte = true
  · -- an escaped byte is none of ASCII, and what is shown has the same bytes
    obtain ⟨c, hc, he⟩ := List.any_eq_true.1 hn
    have hmem : UInt8.ofNat (c.val - 0xDC00) ∈ encodeName name := by
      refine List.mem_flatMap.2 ⟨c, hc, ?_⟩
      rw [nameBytes, if_pos he]
      exact List.mem_singleton_self _
    rw [← encodeName_respell, h] at hmem
    obtain ⟨d, hd, hbyte⟩ := List.mem_flatMap.1 hmem
    have hlt := hs d hd
    rw [nameBytes_of_ascii hlt, List.mem_singleton] at hbyte
    have hval := congrArg UInt8.toNat hbyte
    unfold CodePoint.isEscapedByte at he
    simp only [Bool.and_eq_true, decide_eq_true_eq] at he
    rw [UInt8.toNat_ofNat', UInt8.toNat_ofNat', Nat.mod_eq_of_lt (by omega),
      Nat.mod_eq_of_lt (by omega)] at hval
    omega
  · exact (if_neg hn).symm.trans h

/-- No other name is shown as the one that leads upward. -/
theorem respell_ne_dotDot {name : Text} (h : name ≠ [0x2E, 0x2E]) :
    respell name ≠ [0x2E, 0x2E] :=
  fun hshown => h (eq_of_respell_eq (List.forall_mem_cons.2
    ⟨by decide, List.forall_mem_singleton.2 (by decide)⟩) hshown)

end Lexicon.Utf8
