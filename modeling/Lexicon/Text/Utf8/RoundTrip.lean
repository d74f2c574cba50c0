import Lexicon.Text.Utf8

/-!
# Reading UTF-8 back

What is written in UTF-8 is read back as it was. A code point is read byte by
byte, and between two of them nothing is left over (`decodeFrom?_of_owed`), so
it suffices to follow one code point through its bytes
(`decode?_encodeCodePoint`). A whole text follows, and with it `decode?_encode`.
-/

namespace Lexicon.Utf8

/-- Between two code points it does not matter what came before. -/
theorem decodeFrom?_of_owed {p : Pending} (h : p.owed = 0) (bytes : List Byte) :
    decodeFrom? p bytes = decode? bytes := by
  unfold decode?
  cases bytes with
  | nil => simp [decodeFrom?, h]
  | cons b rest =>
    unfold decodeFrom?
    simp only [step?, h]

theorem codePoint?_val {c : CodePoint} {least : Nat} (hl : least ≤ c.val)
    (hs : c.isSurrogate = false) : codePoint? least c.val = some c := by
  have hn : ¬ (0xD800 ≤ c.val ∧ c.val ≤ 0xDFFF) := by
    simpa [CodePoint.isSurrogate] using hs
  rw [codePoint?, if_pos ⟨hl, hn⟩]
  exact CodePoint.ofNat?_val c

@[simp] theorem toNat_continuation (n : Nat) :
    (continuation n).toNat = 0x80 + n % 0x40 := by
  simp only [continuation, UInt8.toNat_ofNat']
  omega

/-- A byte that goes on with a code point adds its six bits. -/
theorem step?_continuation (owed value least n : Nat) :
    step? ⟨owed + 1, value, least⟩ (continuation n)
      = some ⟨owed, value * 0x40 + n % 0x40, least⟩ := by
  have hn := Nat.mod_lt n (show 0 < 0x40 by decide)
  have hc : isContinuation (continuation n) = true := by
    rw [isContinuation, toNat_continuation, Bool.and_eq_true]
    exact ⟨by simp, by simp; omega⟩
  rw [step?]
  simp only [hc, if_true, toNat_continuation]
  congr 2
  omega

/-- What goes on after a byte that leaves bytes owed. -/
theorem decodeFrom?_continuation (owed value least n : Nat) (rest : List Byte) :
    decodeFrom? ⟨owed + 2, value, least⟩ (continuation n :: rest)
      = decodeFrom? ⟨owed + 1, value * 0x40 + n % 0x40, least⟩ rest := by
  rw [decodeFrom?, step?_continuation]
  simp

/-- The byte that completes a code point gives it. -/
theorem decodeFrom?_last {value least n : Nat} {c : CodePoint}
    (hc : value * 0x40 + n % 0x40 = c.val) (hl : least ≤ c.val)
    (hs : c.isSurrogate = false) (rest : List Byte) :
    decodeFrom? ⟨1, value, least⟩ (continuation n :: rest)
      = (decode? rest).map (c :: ·) := by
  rw [decodeFrom?, step?_continuation]
  simp only [hc, if_true, codePoint?_val hl hs, Option.bind_some]
  rw [decodeFrom?_of_owed rfl]

/-- **A code point that is no surrogate is read back as it was written.** -/
theorem decode?_encodeCodePoint {c : CodePoint} (h : c.isSurrogate = false)
    (rest : List Byte) :
    decode? (encodeCodePoint c ++ rest) = (decode? rest).map (c :: ·) := by
  have hc := c.isLt
  unfold encodeCodePoint
  simp only []
  split
  · rename_i h₁
    have hb : (UInt8.ofNat c.val).toNat = c.val := by simp; omega
    rw [List.singleton_append, decode?, decodeFrom?]
    simp only [step?, lead?, hb, if_pos h₁, if_true,
      codePoint?_val (Nat.zero_le _) h, Option.bind_some]
    rw [decodeFrom?_of_owed rfl]
  · rename_i h₁
    split
    · rename_i h₂
      have hl : lead? (UInt8.ofNat (0xC0 + c.val / 0x40))
          = some ⟨1, c.val / 0x40, 0x80⟩ := by
        have hb : (UInt8.ofNat (0xC0 + c.val / 0x40)).toNat
            = 0xC0 + c.val / 0x40 := by simp; omega
        simp only [lead?, hb]
        rw [if_neg (by omega), if_neg (by omega), if_pos (by omega)]
        congr 2
        omega
      simp only [List.cons_append, List.nil_append, decode?]
      rw [decodeFrom?]
      simp only [step?, hl]
      exact decodeFrom?_last (by omega) (by omega) h rest
    · rename_i h₂
      split
      · rename_i h₃
        have hl : lead? (UInt8.ofNat (0xE0 + c.val / 0x1000))
            = some ⟨2, c.val / 0x1000, 0x800⟩ := by
          have hb : (UInt8.ofNat (0xE0 + c.val / 0x1000)).toNat
              = 0xE0 + c.val / 0x1000 := by simp; omega
          simp only [lead?, hb]
          rw [if_neg (by omega), if_neg (by omega), if_neg (by omega),
            if_pos (by omega)]
          congr 2
          omega
        simp only [List.cons_append, List.nil_append, decode?]
        rw [decodeFrom?]
        simp only [step?, hl]
        refine (decodeFrom?_continuation 0 _ _ _ _).trans ?_
        exact decodeFrom?_last (by omega) (by omega) h rest
      · rename_i h₃
        have hl : lead? (UInt8.ofNat (0xF0 + c.val / 0x40000))
            = some ⟨3, c.val / 0x40000, 0x10000⟩ := by
          have hb : (UInt8.ofNat (0xF0 + c.val / 0x40000)).toNat
              = 0xF0 + c.val / 0x40000 := by simp; omega
          simp only [lead?, hb]
          rw [if_neg (by omega), if_neg (by omega), if_neg (by omega),
            if_neg (by omega), if_pos (by omega)]
          congr 2
          omega
        simp only [List.cons_append, List.nil_append, decode?]
        rw [decodeFrom?]
        simp only [step?, hl]
        refine (decodeFrom?_continuation 1 _ _ _ _).trans ?_
        refine (decodeFrom?_continuation 0 _ _ _ _).trans ?_
        exact decodeFrom?_last (by omega) (by omega) h rest

theorem decode?_flatMap {t : Text} (h : ∀ c ∈ t, c.isSurrogate = false) :
    decode? (t.flatMap encodeCodePoint) = some t := by
  induction t with
  | nil => rfl
  | cons c rest ih =>
    rw [List.flatMap_cons, decode?_encodeCodePoint (h c List.mem_cons_self),
      ih fun d hd => h d (List.mem_cons_of_mem c hd)]
    rfl

theorem surrogateRunFrom?_eq_none_iff (position : Nat) (t : Text) :
    surrogateRunFrom? position t = none ↔ ∀ c ∈ t, c.isSurrogate = false := by
  induction t generalizing position with
  | nil => simp [surrogateRunFrom?]
  | cons c rest ih =>
    rw [surrogateRunFrom?]
    by_cases h : c.isSurrogate = true
    · simp [h]
    · simp [h, ih]

/-- **A text is written exactly if it has no surrogate**, code point by code
point. -/
theorem encode_eq_ok_iff {t : Text} {bytes : List Byte} :
    encode t = .ok bytes
      ↔ (∀ c ∈ t, c.isSurrogate = false) ∧ t.flatMap encodeCodePoint = bytes := by
  rw [← surrogateRunFrom?_eq_none_iff 0 t, encode, surrogateRun?]
  cases surrogateRunFrom? 0 t <;> simp

/-- **What is written is read back.** -/
theorem decode?_encode {t : Text} {bytes : List Byte}
    (h : encode t = .ok bytes) : decode? bytes = some t := by
  obtain ⟨hs, rfl⟩ := encode_eq_ok_iff.1 h
  exact decode?_flatMap hs

end Lexicon.Utf8
