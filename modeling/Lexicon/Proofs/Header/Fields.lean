import Mathlib.Data.List.Basic
import Lexicon.Header.Reader
import Lexicon.Proofs.Text.Utf8.Respelling
import Lexicon.Text.Utf8.RoundTrip

/-!
# Fields closed by zeros

The attributes of a header are fields, each closed by a zero byte. A zero byte
stands in UTF-8 for the code point zero and nothing else, so texts without that
code point are fields that can be told apart (`Header.fields?_flatMap`), and no
field that was read gives a text that holds it (`Utf8.zero_not_mem_of_decode?`).
-/

namespace Lexicon

namespace Utf8

/-! ## The zero byte -/

/-- A code point that is not zero is written without a zero byte. -/
theorem zero_not_mem_encodeCodePoint {c : CodePoint} (h : c ≠ 0) :
    (0 : Byte) ∉ encodeCodePoint c := by
  have hc := c.isLt
  have hpos : 0 < c.val := Nat.pos_of_ne_zero fun hz => h (Fin.ext hz)
  have hcont : ∀ n, (0 : Byte) ≠ continuation n := by
    intro n hn
    have hnat := congrArg UInt8.toNat hn
    rw [toNat_continuation, UInt8.toNat_zero] at hnat
    omega
  have hlead : ∀ n, 0 < n → n < 0x100 → (0 : Byte) ≠ UInt8.ofNat n := by
    intro n hn hlt hz
    have hnat := congrArg UInt8.toNat hz
    rw [UInt8.toNat_ofNat_of_lt' hlt] at hnat
    exact absurd hnat (by simp; omega)
  unfold encodeCodePoint
  simp only []
  split
  · simp only [List.mem_singleton]
    exact hlead _ hpos (by omega)
  split
  · simp only [List.mem_cons, List.not_mem_nil, or_false, not_or]
    exact ⟨hlead _ (by omega) (by omega), hcont _⟩
  split
  · simp only [List.mem_cons, List.not_mem_nil, or_false, not_or]
    exact ⟨hlead _ (by omega) (by omega), hcont _, hcont _⟩
  · simp only [List.mem_cons, List.not_mem_nil, or_false, not_or]
    exact ⟨hlead _ (by omega) (by omega), hcont _, hcont _, hcont _⟩

/-- **A text without zero is written without a zero byte.** -/
theorem zero_not_mem_flatMap {t : Text} (h : (0 : CodePoint) ∉ t) :
    (0 : Byte) ∉ t.flatMap encodeCodePoint := by
  rw [List.mem_flatMap]
  rintro ⟨c, hc, hz⟩
  exact zero_not_mem_encodeCodePoint (fun h0 => h (h0 ▸ hc)) hz

/-- **A code point under way is not zero**: more than one byte stands only for
code points that need them. -/
def Pending.IsPositive (p : Pending) : Prop :=
  p.owed ≠ 0 → p.least ≠ 0

/-- **A byte other than zero** neither opens nor completes the code point
zero. -/
theorem Pending.IsPositive.step {p q : Pending} {b : Byte}
    (hp : p.IsPositive) (hb : b ≠ 0) (h : step? p b = some q) :
    q.IsPositive ∧ ∀ c, codePoint? q.least q.value = some c → c ≠ 0 := by
  have hlong : q.least ≠ 0 →
      q.IsPositive ∧ ∀ c, codePoint? q.least q.value = some c → c ≠ 0 := by
    intro hl
    refine ⟨fun _ => hl, ?_⟩
    rintro c hc rfl
    exact hl (Nat.eq_zero_of_le_zero (val_of_codePoint? hc).1)
  unfold step? at h
  split at h
  · obtain ⟨-, rfl⟩ | ⟨-, -, rfl⟩ | ⟨-, -, rfl⟩ | ⟨-, -, rfl⟩ := lead?_eq_some h
    · refine ⟨fun howed => absurd rfl howed, ?_⟩
      rintro c hc rfl
      obtain ⟨-, hval⟩ := val_of_codePoint? hc
      exact hb (UInt8.toNat_inj.1 hval.symm)
    all_goals exact hlong (by simp)
  · rename_i owed howed
    split at h
    · obtain rfl := Option.some.inj h
      exact hlong (hp (by rw [howed]; exact Nat.succ_ne_zero owed))
    · exact absurd h (by simp)

/-- What is read from bytes other than zero does not hold the code point zero,
whatever is under way. -/
theorem zero_not_mem_of_decodeFrom? {p : Pending} {bytes : List Byte} {t : Text}
    (hp : p.IsPositive) (hb : (0 : Byte) ∉ bytes)
    (h : decodeFrom? p bytes = some t) : (0 : CodePoint) ∉ t := by
  induction bytes generalizing p t with
  | nil =>
    unfold decodeFrom? at h
    split at h
    · rw [← Option.some.inj h]
      exact List.not_mem_nil
    · exact absurd h (by simp)
  | cons b rest ih =>
    rw [List.mem_cons, not_or] at hb
    unfold decodeFrom? at h
    split at h
    · exact absurd h (by simp)
    rename_i q hq
    obtain ⟨hpos, hne⟩ := hp.step (Ne.symm hb.1) hq
    split at h
    · obtain ⟨c, hc, h⟩ := Option.bind_eq_some_iff.1 h
      obtain ⟨t', ht', rfl⟩ := Option.map_eq_some_iff.1 h
      rw [List.mem_cons, not_or]
      exact ⟨Ne.symm (hne c hc), ih hpos hb.2 ht'⟩
    · exact ih hpos hb.2 h

/-- **What is read from bytes other than zero** does not hold the code point
zero. -/
theorem zero_not_mem_of_decode? {bytes : List Byte} {t : Text}
    (hb : (0 : Byte) ∉ bytes) (h : decode? bytes = some t) :
    (0 : CodePoint) ∉ t :=
  zero_not_mem_of_decodeFrom? (fun howed => absurd rfl howed) hb h

end Utf8

namespace Header

/-! ## Fields -/

/-- A field that is closed stands in front of what follows. -/
theorem fields?_append {f : List Byte} (hf : (0 : Byte) ∉ f) (rest : List Byte) :
    fields? (f ++ 0 :: rest) = (fields? rest).map (f :: ·) := by
  induction f with
  | nil =>
    rw [List.nil_append, fields?]
    cases fields? rest <;> rfl
  | cons b f ih =>
    rw [List.mem_cons, not_or] at hf
    rw [List.cons_append, fields?, ih hf.2]
    cases fields? rest with
    | none => rfl
    | some fields =>
      dsimp only [Option.map_some]
      rw [if_neg (Ne.symm hf.1)]

/-- **Fields without zero bytes are told apart** where each is closed. -/
theorem fields?_flatMap {fs : List (List Byte)}
    (h : ∀ f ∈ fs, (0 : Byte) ∉ f) :
    fields? (fs.flatMap (· ++ [0])) = some fs := by
  induction fs with
  | nil => rfl
  | cons f fs ih =>
    obtain ⟨hf, hfs⟩ := List.forall_mem_cons.1 h
    rw [List.flatMap_cons, List.append_assoc, List.singleton_append,
      fields?_append hf, ih hfs]
    rfl

/-- **No field that was read holds a zero byte.** -/
theorem zero_not_mem_of_fields? {block : List Byte} {fs : List (List Byte)}
    (h : fields? block = some fs) : ∀ f ∈ fs, (0 : Byte) ∉ f := by
  induction block generalizing fs with
  | nil =>
    rw [← Option.some.inj h]
    exact fun f hf => absurd hf List.not_mem_nil
  | cons b rest ih =>
    rw [fields?] at h
    cases hrest : fields? rest with
    | none =>
      rw [hrest] at h
      exact absurd h (by simp)
    | some fields =>
      rw [hrest] at h
      dsimp only at h
      have hfields := ih hrest
      split at h
      · rw [← Option.some.inj h, List.forall_mem_cons]
        exact ⟨List.not_mem_nil, hfields⟩
      · rename_i hb
        split at h
        · exact absurd h (by simp)
        · rw [List.forall_mem_cons] at hfields
          rw [← Option.some.inj h, List.forall_mem_cons, List.mem_cons, not_or]
          exact ⟨⟨Ne.symm hb, hfields.1⟩, hfields.2⟩

/-! ## Pairs -/

variable {α : Type}

/-- **Pairs written one after the other** are put together again. -/
theorem pairs?_flatMap (ps : List (α × α)) :
    pairs? (ps.flatMap fun p => [p.1, p.2]) = some ps := by
  induction ps with
  | nil => rfl
  | cons p ps ih =>
    rw [List.flatMap_cons, List.cons_append, List.cons_append, List.nil_append,
      pairs?, ih]
    rfl

/-- Pairs consist of what was put into them. -/
theorem mem_of_pairs? {xs : List α} {ps : List (α × α)}
    (h : pairs? xs = some ps) : ∀ p ∈ ps, p.1 ∈ xs ∧ p.2 ∈ xs := by
  fun_induction pairs? xs generalizing ps with
  | case1 =>
    rw [← Option.some.inj h]
    exact fun p hp => absurd hp List.not_mem_nil
  | case2 => exact absurd h (by simp)
  | case3 a b rest ih =>
    obtain ⟨qs, hqs, rfl⟩ := Option.map_eq_some_iff.1 h
    rw [List.forall_mem_cons]
    refine ⟨⟨List.mem_cons_self, List.mem_cons_of_mem _ List.mem_cons_self⟩, ?_⟩
    intro p hp
    obtain ⟨h₁, h₂⟩ := ih hqs p hp
    exact ⟨List.mem_cons_of_mem _ (List.mem_cons_of_mem _ h₁),
      List.mem_cons_of_mem _ (List.mem_cons_of_mem _ h₂)⟩

end Header

end Lexicon
