import Lexicon.Proofs.FileName.Spelling

/-!
# Canonical file names

Many names spell the same text: digits of escapes may be of either case, and
what needs no escape may be escaped or stand for itself. Escaping writes one of
them, the canonical one. A name is canonical if its name characters, ASCII
letters, digits and underscores, stand for themselves, everything else is
escaped, and the digits of escapes are small (`IsCanonical`). These names are
exactly what escaping writes, and writing what any name spells anew keeps what
it spells (`escape_eq_iff_isCanonical`).
-/

namespace Lexicon

namespace Hex

theorem of_mem_alphabet {d : CodePoint} (h : d ∈ alphabet) :
    d.small = d ∧ alphabet.idxOf d < 16 ∧ digit (alphabet.idxOf d) = d :=
  of_decide_eq_true (List.all_eq_true.1
    (show alphabet.all (fun d => d.small = d ∧ alphabet.idxOf d < 16
      ∧ digit (alphabet.idxOf d) = d) = true by decide +kernel) d h)

/-- **Small digits are the fixed digits of the number that they denote.** -/
theorem fixed_denoted {t : Text} (h : ∀ d ∈ t, d ∈ alphabet) :
    fixed t.length (denoted t) = t := by
  induction t using List.reverseRecOn with
  | nil => rfl
  | append_singleton t d ih =>
    rw [List.forall_mem_append, List.forall_mem_singleton] at h
    obtain ⟨hsmall, hlt, hdigit⟩ := of_mem_alphabet h.2
    rw [List.length_append, List.length_singleton, fixed, denoted_concat, hsmall,
      Nat.mul_add_mod_of_lt hlt, hdigit, Nat.add_comm, Nat.mul_comm,
      Nat.add_mul_div_left _ _ (by decide), Nat.div_eq_of_lt hlt, Nat.zero_add,
      ih h.1]

theorem mem_alphabet_of_mem_fixed {d : CodePoint} {width n : Nat}
    (h : d ∈ fixed width n) : d ∈ alphabet := by
  have hall : ∀ k : Fin 16, digit k.val ∈ alphabet := by decide +kernel
  obtain ⟨k, rfl⟩ := mem_fixed h
  exact hall k

end Hex

namespace FileName

variable {x s g : Text} {c d : CodePoint} {i : Nat}

/-- **What stands for itself in a file name**: an ASCII letter or digit, or the
underscore. -/
def IsNameCharacter (c : CodePoint) : Prop :=
  c.isAlphanumeric = true ∨ c = '_'

/-- **A position between escapes**: it belongs to none. -/
def IsOutside (x : Text) (i : Nat) : Prop :=
  ∀ j c, EscapesAt x j c → i < j ∨ j + 7 ≤ i

/-- **A canonical name**: everything is escaped that has to be, nothing else is,
and the digits of escapes are small. -/
structure IsCanonical (x : Text) : Prop where
  /-- Whatever belongs to no escape is an ASCII letter, digit or underscore. -/
  itself : ∀ i d, x[i]? = some d → IsOutside x i → IsNameCharacter d
  /-- An escape denotes none of these. -/
  escaped : ∀ i c, EscapesAt x i c → ¬ IsNameCharacter c
  /-- The letters among the digits of an escape are small. -/
  small : ∀ i c, EscapesAt x i c →
    ∀ d ∈ (x.drop (i + 1)).take 6, d ∈ Hex.alphabet

instance (c : CodePoint) : Decidable (IsNameCharacter c) :=
  inferInstanceAs (Decidable (_ ∨ _))

theorem isPlain_iff : isPlain (c.val : Int) = true ↔ IsNameCharacter c := by
  have heq : c = (('_' : Char) : CodePoint) ↔ c.val = 0x5F := Fin.ext_iff
  unfold IsNameCharacter isPlain CodePoint.isAlphanumeric CodePoint.isAsciiLetter
  rw [heq]
  simp only [Bool.or_eq_true, Bool.and_eq_true, decide_eq_true_eq, beq_iff_eq]
  omega

theorem IsEscape.unique (hc : IsEscape g c) (hd : IsEscape g d) : d = c := by
  obtain ⟨digits, rfl, -, -, hn⟩ := hc
  obtain ⟨_, hg, -, -, hn'⟩ := hd
  rw [← (List.cons.inj hg).2, hn] at hn'
  exact Fin.ext hn'.symm

theorem IsEscape.eq_fixed_iff (h : IsEscape g c) :
    g = percent :: Hex.fixed 6 c.val ↔ ∀ d ∈ g.tail, d ∈ Hex.alphabet := by
  obtain ⟨digits, rfl, hl, -, hn⟩ := h
  rw [List.cons.injEq, and_iff_right rfl, List.tail_cons]
  constructor
  · intro hd d hm
    exact Hex.mem_alphabet_of_mem_fixed (hd ▸ hm)
  · intro hd
    rw [← hn, ← hl, Hex.fixed_denoted hd]

/-- **When a piece is the canonical one** of its code point: as what stands for
itself it has to be a name character, and as an escape it must denote none, in
small digits. -/
theorem IsPiece.eq_escapeCodePoint_iff (h : IsPiece g c) :
    g = escapeCodePoint c
      ↔ (g = [c] ∧ IsNameCharacter c)
        ∨ (IsEscape g c ∧ ¬ IsNameCharacter c
          ∧ ∀ d ∈ g.tail, d ∈ Hex.alphabet) := by
  have hpercent : ¬ IsNameCharacter percent := by decide +kernel
  unfold escapeCodePoint
  by_cases hc : IsNameCharacter c
  · rw [if_pos (isPlain_iff.2 hc), or_iff_left fun hr => hr.2.1 hc,
      and_iff_left hc]
  · rw [if_neg fun hp => hc (isPlain_iff.1 hp), or_iff_right fun hr => hc hr.2,
      and_iff_right hc]
    cases h with
    | itself hne =>
      refine iff_of_false (fun he => hne (List.cons.inj he).1) fun he => ?_
      exact absurd he.1.length_eq (by simp)
    | escape hg => rw [and_iff_right hg]; exact hg.eq_fixed_iff

/-- **Where escapes stand behind a piece**: the piece is one, or they stand in
the rest. -/
theorem IsPiece.escapesAt_append_iff (h : IsPiece g c) :
    EscapesAt (g ++ x) i d
      ↔ (i = 0 ∧ IsEscape g c ∧ d = c)
        ∨ ∃ j, i = g.length + j ∧ EscapesAt x j d := by
  constructor
  · intro hd
    by_cases hi : g.length ≤ i
    · obtain ⟨j, rfl⟩ := Nat.exists_eq_add_of_le hi
      exact Or.inr ⟨j, rfl, (FileName.escapesAt_append_iff g x).1 hd⟩
    · obtain ⟨rfl, hg⟩ :=
        h.eq_zero_of_percent (Nat.lt_of_not_le hi) hd.percent_eq
      unfold EscapesAt at hd
      rw [List.drop_zero, List.take_left' hg.length_eq] at hd
      exact Or.inl ⟨rfl, hg, hg.unique hd⟩
  · rintro (⟨rfl, hg, rfl⟩ | ⟨j, rfl, hj⟩)
    · exact escapesAt_zero_iff.2 ⟨g, x, rfl, hg⟩
    · exact (FileName.escapesAt_append_iff g x).2 hj

/-- What is outside of escapes behind a piece is so in the rest. -/
theorem isOutside_append_iff (h : IsPiece g c) :
    IsOutside (g ++ x) (g.length + i) ↔ IsOutside x i := by
  unfold IsOutside
  simp only [h.escapesAt_append_iff]
  constructor
  · intro ho j d hj
    have hle := ho (g.length + j) d (Or.inr ⟨j, rfl, hj⟩)
    omega
  · rintro ho _ d (⟨rfl, hg, -⟩ | ⟨j, rfl, hj⟩)
    · rw [hg.length_eq]
      omega
    · have hle := ho j d hj
      omega

theorem IsEscape.digits_append (h : IsEscape g c) (x : Text) :
    ((g ++ x).drop 1).take 6 = g.tail := by
  obtain ⟨digits, rfl, hl, -⟩ := h
  exact List.take_left' hl

theorem digits_append (g x : Text) (i : Nat) :
    ((g ++ x).drop (g.length + i + 1)).take 6 = (x.drop (i + 1)).take 6 := by
  rw [Nat.add_assoc, List.drop_length_add_append]

/-- **A canonical name begins with a canonical piece**, and the rest is
canonical. -/
theorem IsCanonical.of_append (h : IsPiece g c) (hcan : IsCanonical (g ++ x)) :
    g = escapeCodePoint c ∧ IsCanonical x := by
  refine ⟨h.eq_escapeCodePoint_iff.2 ?_, ?_, ?_, ?_⟩
  · cases h with
    | itself hne =>
      refine Or.inl ⟨rfl, hcan.itself 0 c rfl fun j d hj => ?_⟩
      refine Or.inl (Nat.pos_of_ne_zero ?_)
      rintro rfl
      exact hne (Option.some.inj hj.percent_eq)
    | escape hg =>
      have hzero := escapesAt_zero_iff.2 ⟨g, x, rfl, hg⟩
      exact Or.inr ⟨hg, hcan.escaped 0 c hzero,
        hg.digits_append x ▸ hcan.small 0 c hzero⟩
  · intro i d hd ho
    refine hcan.itself (g.length + i) d ?_ ((isOutside_append_iff h).2 ho)
    rwa [List.getElem?_append_right (Nat.le_add_right _ _),
      Nat.add_sub_cancel_left]
  · exact fun i d hd => hcan.escaped _ d ((escapesAt_append_iff g x).2 hd)
  · intro i d hd
    rw [← digits_append]
    exact hcan.small _ d ((escapesAt_append_iff g x).2 hd)

/-- A canonical piece before a canonical name gives a canonical name. -/
theorem IsCanonical.append (h : IsPiece g c) (hg : g = escapeCodePoint c)
    (hcan : IsCanonical x) : IsCanonical (g ++ x) := by
  have hpiece := h.eq_escapeCodePoint_iff.1 hg
  have hfront : IsEscape g c →
      ¬ IsNameCharacter c ∧ ∀ d ∈ g.tail, d ∈ Hex.alphabet := by
    intro he
    obtain ⟨rfl, -⟩ | ⟨-, hrest⟩ := hpiece
    · exact absurd he.length_eq (by simp)
    · exact hrest
  refine ⟨fun i d hd ho => ?_, fun i d hd => ?_, fun i d hd => ?_⟩
  · by_cases hi : g.length ≤ i
    · obtain ⟨j, rfl⟩ := Nat.exists_eq_add_of_le hi
      rw [List.getElem?_append_right hi, Nat.add_sub_cancel_left] at hd
      exact hcan.itself j d hd ((isOutside_append_iff h).1 ho)
    · obtain ⟨rfl, hc⟩ | ⟨he, -⟩ := hpiece
      · obtain rfl : i = 0 := by
          rw [List.length_singleton] at hi
          omega
        exact Option.some.inj hd ▸ hc
      · -- within the escape in front nothing is outside
        have hle := ho 0 c (escapesAt_zero_iff.2 ⟨g, x, rfl, he⟩)
        rw [he.length_eq] at hi
        omega
  · obtain ⟨-, he, rfl⟩ | ⟨j, -, hj⟩ := h.escapesAt_append_iff.1 hd
    · exact (hfront he).1
    · exact hcan.escaped j d hj
  · obtain ⟨rfl, he, -⟩ | ⟨j, rfl, hj⟩ := h.escapesAt_append_iff.1 hd
    · rw [Nat.zero_add, he.digits_append]
      exact (hfront he).2
    · rw [digits_append]
      exact hcan.small j d hj

/-- **A name is canonical piece by piece.** -/
theorem isCanonical_append_iff (h : IsPiece g c) :
    IsCanonical (g ++ x) ↔ g = escapeCodePoint c ∧ IsCanonical x :=
  ⟨IsCanonical.of_append h, fun hcan => .append h hcan.1 hcan.2⟩

/-- Escaping writes a name piece by piece. -/
theorem escape_cons_eq_append_iff (h : IsPiece g c) :
    escape (c :: s) = g ++ x ↔ g = escapeCodePoint c ∧ escape s = x := by
  rw [escape, List.flatMap_cons, ← escape]
  constructor
  · intro he
    have hlength : g.length = (escapeCodePoint c).length := by
      -- the two begin alike, and the percent sign tells escapes apart
      unfold escapeCodePoint at he ⊢
      cases h with
      | itself hne =>
        split
        · rfl
        · rename_i hc
          rw [if_neg hc] at he
          exact absurd (List.cons.inj he).1.symm hne
      | escape hg =>
        rw [hg.length_eq]
        obtain ⟨digits, rfl, -⟩ := hg
        split
        · rename_i hc
          rw [if_pos hc] at he
          rw [(List.cons.inj he).1] at hc
          exact absurd hc (by decide)
        · rw [List.length_cons, Hex.length_fixed]
          rfl
    obtain ⟨hg, hx⟩ := List.append_inj he hlength.symm
    exact ⟨hg.symm, hx⟩
  · rintro ⟨hg, rfl⟩
    rw [hg]

@[simp] theorem isCanonical_nil : IsCanonical [] where
  itself i d hd := absurd hd (by simp)
  escaped i d hd := absurd hd.percent_eq (by simp)
  small i d hd := absurd hd.percent_eq (by simp)

/-- **A name is canonical exactly if it is what escaping writes** for the text
that it spells. -/
theorem Spells.escape_eq_iff (h : Spells x s) :
    escape s = x ↔ IsCanonical x := by
  induction h with
  | nil => exact iff_of_true rfl isCanonical_nil
  | piece hg _ ih =>
    rw [escape_cons_eq_append_iff hg, isCanonical_append_iff hg, ih]

/-- **Canonical names are what escaping writes.** Let a name be read. Escaping
gives it back exactly if it is canonical: what belongs to no escape is an ASCII
letter, digit or underscore, and every escape denotes something else in small
digits. So the canonical names are the ones that escaping writes at all, and
the canonical name of what was read is read alike. -/
theorem escape_eq_iff_isCanonical (x s : Text) (h : unescape x = .ok s) :
    (escape s = x ↔ IsCanonical x)
      ∧ ((∃ t, escape t = x) ↔ IsCanonical x)
      ∧ unescape (escape s) = .ok s := by
  have hiff : escape s = x ↔ IsCanonical x :=
    (unescape_eq_ok_iff.1 h).escape_eq_iff
  refine ⟨hiff, ⟨?_, fun hx => ⟨s, hiff.2 hx⟩⟩, unescape_escape s⟩
  rintro ⟨t, rfl⟩
  rw [unescape_escape] at h
  exact hiff.1 (congrArg escape (Except.ok.inj h).symm)

/-- With a capital among its digits a name is not canonical, though it spells
the same as the canonical one. -/
theorem escape_eq_iff_isCanonical_sample :
    unescape (lit "main%00003Aen") = .ok (lit "main:en")
      ∧ ¬ IsCanonical (lit "main%00003Aen")
      ∧ IsCanonical (lit "main%00003aen")
      ∧ unescape (escape (lit "main:en")) = .ok (lit "main:en") := by
  have hupper : unescape (lit "main%00003Aen") = .ok (lit "main:en") := by
    decide +kernel
  have hlower : unescape (lit "main%00003aen") = .ok (lit "main:en") := by
    decide +kernel
  obtain ⟨hno, -, hsame⟩ := escape_eq_iff_isCanonical _ _ hupper
  obtain ⟨hyes, -, -⟩ := escape_eq_iff_isCanonical _ _ hlower
  exact ⟨hupper, mt hno.2 (by decide +kernel), hyes.1 (by decide +kernel), hsame⟩

end FileName

end Lexicon
