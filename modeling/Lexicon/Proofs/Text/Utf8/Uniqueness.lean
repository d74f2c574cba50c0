import Mathlib.Data.List.Basic
import Lexicon.Proofs.Text.Utf8.Respelling

/-!
# One way to write a text

A text has one encoding: bytes are read as a text exactly if they are what the
text is written as (`Utf8.decode?_eq_some_iff`). That what is written is read
back is known; for the other direction it is enough that reading a text and
showing a name open alike (`Utf8.exists_opened?_of_decode?`), since a name has
the bytes that it was shown for.
-/

namespace Lexicon.Utf8

/-- **The bytes that a code point under way is owed complete it**, and the bytes
behind them are read on their own. -/
theorem exists_of_decodeFrom?_owed {owed value least : Nat} {bytes : List Byte}
    {t : Text} (h : decodeFrom? ⟨owed + 1, value, least⟩ bytes = some t) :
    ∃ c more,
      decodeFrom? ⟨owed + 1, value, least⟩ (bytes.take (owed + 1)) = some [c]
        ∧ decode? (bytes.drop (owed + 1)) = some more ∧ t = c :: more := by
  induction owed generalizing value bytes with
  | zero =>
    rcases bytes with - | ⟨d, rest⟩
    · exact absurd h (by simp [decodeFrom?])
    rw [decodeFrom?, step?] at h
    cases hd : isContinuation d with
    | false =>
      simp only [hd] at h
      exact absurd h (by simp)
    | true =>
      simp only [hd, if_true] at h
      obtain ⟨c, hc, h⟩ := Option.bind_eq_some_iff.1 h
      obtain ⟨more, hmore, rfl⟩ := Option.map_eq_some_iff.1 h
      refine ⟨c, more, ?_, (decodeFrom?_of_owed rfl rest).symm.trans hmore, rfl⟩
      rw [List.take_succ_cons, List.take_zero, decodeFrom?, step?]
      simp only [hd, if_true]
      rw [hc]
      rfl
  | succ owed ih =>
    rcases bytes with - | ⟨d, rest⟩
    · exact absurd h (by simp [decodeFrom?])
    obtain ⟨hd, h⟩ := of_decodeFrom?_cons h
    obtain ⟨c, more, hread, hmore, rfl⟩ := ih h
    refine ⟨c, more, ?_, hmore, rfl⟩
    rw [List.take_succ_cons, decodeFrom?, step?]
    simp only [hd, if_true]
    rw [if_neg (Nat.succ_ne_zero owed)]
    exact hread

/-- **A text that was read opens as a name does.** -/
theorem exists_opened?_of_decode? {b : Byte} {rest : List Byte} {t : Text}
    (h : decode? (b :: rest) = some t) :
    ∃ c taken more, opened? b rest = some (c, taken)
      ∧ decode? (rest.drop taken) = some more ∧ t = c :: more := by
  unfold decode? at h
  rw [decodeFrom?, step?] at h
  rcases hp : lead? b with - | ⟨owed, value, least⟩
  · rw [hp] at h
    exact absurd h (by simp)
  rw [hp] at h
  have hopened : ∀ c, decode? (b :: rest.take owed) = some [c] →
      opened? b rest = some (c, owed) := by
    intro c hc
    unfold opened?
    rw [hp]
    dsimp only
    rw [hc]
  -- the first byte alone, or together with the bytes that it owes
  cases owed with
  | zero =>
    obtain ⟨c, hc, h⟩ := Option.bind_eq_some_iff.1 h
    obtain ⟨more, hmore, rfl⟩ := Option.map_eq_some_iff.1 h
    refine ⟨c, 0, more, hopened c ?_,
      (decodeFrom?_of_owed rfl rest).symm.trans hmore, rfl⟩
    rw [List.take_zero, decode?, decodeFrom?, step?, hp]
    dsimp only at hc ⊢
    rw [if_pos rfl, hc]
    rfl
  | succ owed =>
    dsimp only at h
    rw [if_neg (Nat.succ_ne_zero owed)] at h
    obtain ⟨c, more, hread, hmore, rfl⟩ := exists_of_decodeFrom?_owed h
    refine ⟨c, owed + 1, more, hopened c ?_, hmore, rfl⟩
    rw [decode?, decodeFrom?, step?, hp]
    dsimp only
    rw [if_neg (Nat.succ_ne_zero owed)]
    exact hread

/-- **What is read from bytes is what they show as a name.** -/
theorem decodeName_of_decode? {bytes : List Byte} {t : Text}
    (h : decode? bytes = some t) : decodeName bytes = t := by
  fun_induction decodeName bytes generalizing t with
  | case1 => exact Option.some.inj h
  | case2 b rest c taken hopened ih =>
    obtain ⟨c', taken', more, hopened', hmore, rfl⟩ :=
      exists_opened?_of_decode? h
    obtain ⟨rfl, rfl⟩ :=
      Prod.mk.inj (Option.some.inj (hopened.symm.trans hopened'))
    rw [ih hmore]
  | case3 b rest hopened ih =>
    obtain ⟨c, taken, more, hopened', -⟩ := exists_opened?_of_decode? h
    exact absurd (hopened.symm.trans hopened') (by simp)

theorem encodeName_of_not_surrogate {name : Text}
    (h : ∀ c ∈ name, c.isSurrogate = false) :
    encodeName name = name.flatMap encodeCodePoint := by
  refine List.flatMap_congr fun c hc => if_neg fun he => ?_
  have hs := isSurrogate_of_isEscapedByte he
  rw [h c hc] at hs
  exact absurd hs (by simp)

/-- **Bytes are read as a text exactly if the text is written as them.** -/
theorem decode?_eq_some_iff {bytes : List Byte} {t : Text} :
    decode? bytes = some t ↔ encode t = .ok bytes := by
  refine ⟨fun h => ?_, decode?_encode⟩
  have hs := isSurrogate_of_decodeFrom? h
  have hshown := decodeName_of_decode? h
  refine encode_eq_ok_iff.2 ⟨hs, ?_⟩
  rw [← encodeName_of_not_surrogate hs, ← hshown, encodeName_decodeName]

end Lexicon.Utf8
