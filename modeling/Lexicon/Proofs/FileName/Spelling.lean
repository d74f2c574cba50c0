import Mathlib.Data.List.Induction
import Mathlib.Data.Nat.Digits.Defs
import Mathlib.Order.Bounds.Defs
import Lexicon.Proofs.FileName.Alphabet
import Lexicon.Proofs.Outcome
import Lexicon.Proofs.Text.Words

/-!
# What a file name spells

A file name consists of pieces: code points that stand for themselves, and
escapes, each a percent sign with six hexadecimal digits of either case that
denote a code point. None of the digits is a percent sign, so an escape can
hide no other one, and a name is read from its front without looking ahead.
`Spells` is the relation between a name and the text that its pieces stand for,
`IsFault` says where a percent sign opens no escape. Reading gives what the
name spells, or the first fault (`unescape_grammar`).
-/

namespace Lexicon

namespace Hex

/-- The sixteen hexadecimal digits by their values, letters small. -/
def alphabet : Text := lit "0123456789abcdef"

/-- **A hexadecimal digit**, in either case. -/
def IsDigit (c : CodePoint) : Prop :=
  c.small ∈ alphabet

instance (c : CodePoint) : Decidable (IsDigit c) :=
  inferInstanceAs (Decidable (_ ∈ _))

/-- **The number that digits denote** by their places. -/
def denoted (digits : Text) : Nat :=
  Nat.ofDigits 16 (digits.reverse.map fun d => alphabet.idxOf d.small)

/-- **The digits that have a value** are the hexadecimal ones, and it is their
place among the sixteen. -/
theorem value?_eq_some_iff {c : CodePoint} {n : Nat} :
    value? c = some n ↔ IsDigit c ∧ alphabet.idxOf c.small = n := by
  suffices h : value? c
      = if IsDigit c then some (alphabet.idxOf c.small) else none by
    rw [h]
    simp
  by_cases hc : c.val < 0x80
  · exact CodePoint.forall_ascii
      (P := fun c => value? c
        = if IsDigit c then some (alphabet.idxOf c.small) else none)
      (by decide +kernel) hc
  · have hascii : ∀ d ∈ alphabet, d.val < 0x80 := fun d hd =>
      of_decide_eq_true (List.all_eq_true.1
        (show alphabet.all (·.val < 0x80) = true from rfl) d hd)
    have hno : ¬ IsDigit c := fun h =>
      hc (CodePoint.val_small_lt_iff.1 (hascii _ h))
    rw [if_neg hno]
    unfold value?
    rw [if_neg (by omega), if_neg (by omega), if_neg (by omega)]

/-- One digit more is worth its place, the others sixteen times as much. -/
theorem denoted_concat (t : Text) (c : CodePoint) :
    denoted (t ++ [c]) = denoted t * 16 + alphabet.idxOf c.small := by
  unfold denoted
  rw [List.reverse_append, List.reverse_singleton, List.singleton_append,
    List.map_cons, Nat.ofDigits_cons, Nat.add_comm, Nat.mul_comm]

/-- **Digits are read as the number that they denote.** -/
theorem number?_eq_some_iff {t : Text} {n : Nat} :
    number? t = some n ↔ (∀ d ∈ t, IsDigit d) ∧ denoted t = n := by
  induction t using List.reverseRecOn generalizing n with
  | nil => simp [number?, denoted]
  | append_singleton t c ih =>
    have hstep : number? (t ++ [c])
        = (number? t).bind fun m => (value? c).map (m * 16 + ·) := by
      unfold number?
      rw [List.foldlM_append]
      simp
    rw [hstep, Option.bind_eq_some_iff, denoted_concat, List.forall_mem_append,
      List.forall_mem_singleton]
    simp only [ih, Option.map_eq_some_iff, value?_eq_some_iff]
    constructor
    · rintro ⟨m, ⟨ht, rfl⟩, k, ⟨hc, rfl⟩, rfl⟩
      exact ⟨⟨ht, hc⟩, rfl⟩
    · rintro ⟨⟨ht, hc⟩, rfl⟩
      exact ⟨_, ⟨ht, rfl⟩, _, ⟨hc, rfl⟩, rfl⟩

end Hex

/-- A number gives the code point whose number it is. -/
@[simp] theorem CodePoint.ofNat?_eq_some_iff {n : Nat} {c : CodePoint} :
    CodePoint.ofNat? n = some c ↔ n = c.val := by
  constructor
  · intro h
    unfold CodePoint.ofNat? at h
    split at h
    · rw [← Option.some.inj h]
    · exact absurd h (by simp)
  · rintro rfl
    exact CodePoint.ofNat?_val c

namespace FileName

variable {x s g : Text} {c : CodePoint} {i p q : Nat}

/-! ## Pieces of a name -/

/-- **An escape of a code point**: a percent sign and six hexadecimal digits, of
either case, that denote it. -/
def IsEscape (group : Text) (c : CodePoint) : Prop :=
  ∃ digits, group = percent :: digits ∧ digits.length = 6
    ∧ (∀ d ∈ digits, Hex.IsDigit d) ∧ Hex.denoted digits = c.val

/-- **A piece of a name**: a code point that stands for itself, or an
escape. -/
inductive IsPiece : Text → CodePoint → Prop
  /-- Whatever is no percent sign may stand for itself. -/
  | itself {c : CodePoint} (h : c ≠ percent) : IsPiece [c] c
  /-- An escape stands for the code point that it denotes. -/
  | escape {group : Text} {c : CodePoint} (h : IsEscape group c) :
    IsPiece group c

/-- **What a name spells**: the name consists of pieces, and the text of the
code points that these stand for. -/
inductive Spells : Text → Text → Prop
  /-- Nothing spells nothing. -/
  | nil : Spells [] []
  /-- A piece spells one code point more. -/
  | piece {g x s : Text} {c : CodePoint} (hg : IsPiece g c)
    (h : Spells x s) : Spells (g ++ x) (c :: s)

/-- **Where an escape stands in a name**: the seven code points from a position
on are one. -/
def EscapesAt (x : Text) (i : Nat) (c : CodePoint) : Prop :=
  IsEscape ((x.drop i).take 7) c

/-- **A malformed escape**: a percent sign with which no escape opens. -/
def IsFault (x : Text) (i : Nat) : Prop :=
  x[i]? = some percent ∧ ∀ c, ¬ EscapesAt x i c

theorem IsEscape.length_eq (h : IsEscape g c) : g.length = 7 := by
  obtain ⟨digits, rfl, hl, -⟩ := h
  rw [List.length_cons, hl]

theorem escapesAt_zero_iff :
    EscapesAt x 0 c ↔ ∃ g rest, x = g ++ rest ∧ IsEscape g c := by
  unfold EscapesAt
  rw [List.drop_zero]
  constructor
  · exact fun h => ⟨_, _, (List.take_append_drop 7 x).symm, h⟩
  · rintro ⟨g, rest, rfl, h⟩
    rwa [List.take_left' h.length_eq]

theorem EscapesAt.percent_eq (h : EscapesAt x i c) : x[i]? = some percent := by
  obtain ⟨digits, hx, -⟩ := h
  have hhead := congrArg List.head? hx
  rw [List.head?_cons, List.head?_take, if_neg (by decide), List.head?_drop]
    at hhead
  exact hhead

/-- **An escape can hide no other one**: none of its digits is a percent
sign. -/
theorem IsPiece.eq_zero_of_percent (h : IsPiece g c) (hi : i < g.length)
    (hp : (g ++ x)[i]? = some percent) : i = 0 ∧ IsEscape g c := by
  rw [List.getElem?_append_left hi] at hp
  cases h with
  | itself hc =>
    obtain rfl : i = 0 := Nat.lt_one_iff.1 hi
    exact absurd (Option.some.inj hp) hc
  | escape hg =>
    refine ⟨?_, hg⟩
    obtain ⟨digits, rfl, -, hd, -⟩ := hg
    cases i with
    | zero => rfl
    | succ j =>
      rw [List.getElem?_cons_succ] at hp
      exact absurd (hd percent (List.mem_of_getElem? hp)) (by decide +kernel)

theorem IsPiece.length_pos (h : IsPiece g c) : 0 < g.length := by
  cases h with
  | itself hc => exact Nat.one_pos
  | escape hg => rw [hg.length_eq]; exact Nat.succ_pos _

/-! ## Positions behind a piece -/

@[simp] theorem escapesAt_append_iff (g x : Text) :
    EscapesAt (g ++ x) (g.length + i) c ↔ EscapesAt x i c := by
  unfold EscapesAt
  rw [List.drop_length_add_append]

/-- **What is malformed behind a piece** is what is malformed in the rest. -/
theorem isFault_append_iff (h : IsPiece g c) :
    IsFault (g ++ x) i ↔ g.length ≤ i ∧ IsFault x (i - g.length) := by
  by_cases hi : g.length ≤ i
  · obtain ⟨j, rfl⟩ := Nat.exists_eq_add_of_le hi
    unfold IsFault
    rw [Nat.add_sub_cancel_left, List.getElem?_append_right hi,
      Nat.add_sub_cancel_left, and_iff_right hi]
    simp only [escapesAt_append_iff]
  · refine iff_of_false (fun hf => ?_) fun hf => hi hf.1
    obtain ⟨rfl, hg⟩ := h.eq_zero_of_percent (Nat.lt_of_not_le hi) hf.1
    exact hf.2 c (escapesAt_zero_iff.2 ⟨g, x, rfl, hg⟩)

/-- The first malformed escape behind a piece is that of the rest. -/
theorem isLeast_fault_append_iff (h : IsPiece g c) :
    IsLeast {i | IsFault (g ++ x) i} i
      ↔ g.length ≤ i ∧ IsLeast {i | IsFault x i} (i - g.length) := by
  simp only [IsLeast, mem_lowerBounds, Set.mem_ofPred_eq, isFault_append_iff h,
    and_assoc]
  refine and_congr_right fun hi => and_congr_right fun _ => ?_
  constructor
  · intro hmin j hj
    have hle := hmin (g.length + j) ⟨Nat.le_add_right _ _, by
      rwa [Nat.add_sub_cancel_left]⟩
    omega
  · rintro hmin j ⟨hj, hf⟩
    have hle := hmin _ hf
    omega

/-! ## Reading piece by piece -/

/-- The digits of an escape are read as the code point that they denote. -/
theorem escaped?_eq_some_iff {digits : Text} :
    escaped? digits = some c
      ↔ (∀ d ∈ digits, Hex.IsDigit d) ∧ Hex.denoted digits = c.val := by
  unfold escaped?
  rw [Option.bind_eq_some_iff]
  simp only [Hex.number?_eq_some_iff, CodePoint.ofNat?_eq_some_iff]
  constructor
  · rintro ⟨n, ⟨hd, rfl⟩, hn⟩
    exact ⟨hd, hn⟩
  · rintro ⟨hd, hn⟩
    exact ⟨_, ⟨hd, rfl⟩, hn⟩

/-- **A piece is read as the code point that it stands for.** -/
theorem unescapeFrom_append (h : IsPiece g c) (p : Nat) (rest : Text) :
    unescapeFrom p (g ++ rest)
      = (unescapeFrom (p + g.length) rest).map (c :: ·) := by
  cases h with
  | itself hc => exact unescapeFrom_cons_of_ne hc p rest
  | escape hg =>
    rw [hg.length_eq]
    obtain ⟨digits, rfl, hl, hd⟩ := hg
    have hread := escaped?_eq_some_iff.2 hd
    match digits with
    | [d₁, d₂, d₃, d₄, d₅, d₆] =>
      simp only [List.cons_append, List.nil_append]
      rw [unescapeFrom, if_pos rfl]
      simp only [hread]
    | [] | [_] | [_, _] | [_, _, _] | [_, _, _, _] | [_, _, _, _, _]
    | _ :: _ :: _ :: _ :: _ :: _ :: _ :: _ => exact absurd hl (by simp)

/-- **A malformed escape in front** ends the reading. -/
theorem unescapeFrom_of_isFault (h : IsFault x 0) (p : Nat) :
    unescapeFrom p x = .error p := by
  obtain ⟨hpercent, hno⟩ := h
  cases x with
  | nil => exact absurd hpercent (by simp)
  | cons d rest =>
    obtain rfl : d = percent := Option.some.inj hpercent
    rw [unescapeFrom.eq_def]
    dsimp only
    rw [if_pos rfl]
    split
    · rename_i d₁ d₂ d₃ d₄ d₅ d₆ more
      cases he : escaped? [d₁, d₂, d₃, d₄, d₅, d₆] with
      | none => rfl
      | some c =>
        exact absurd (escapesAt_zero_iff.2 ⟨percent :: [d₁, d₂, d₃, d₄, d₅, d₆],
          more, rfl, _, rfl, rfl, escaped?_eq_some_iff.1 he⟩) (hno c)
    · rfl

/-- **A name is taken apart** piece by piece, up to its first malformed
escape. -/
theorem induction_pieces {P : Text → Prop} (nil : P [])
    (piece : ∀ g c rest, IsPiece g c → P rest → P (g ++ rest))
    (malformed : ∀ x, IsFault x 0 → P x) (x : Text) : P x := by
  induction hn : x.length using Nat.strong_induction_on generalizing x with
  | h n ih =>
    have hpiece : ∀ g c rest, IsPiece g c → x = g ++ rest → P x := by
      rintro g c rest hg rfl
      have hpos := hg.length_pos
      rw [List.length_append] at hn
      exact piece g c rest hg (ih rest.length (by omega) rest rfl)
    cases x with
    | nil => exact nil
    | cons d rest =>
      by_cases hd : d = percent
      · by_cases he : ∃ c, EscapesAt (d :: rest) 0 c
        · obtain ⟨c, he⟩ := he
          obtain ⟨g, more, hx, hg⟩ := escapesAt_zero_iff.1 he
          exact hpiece g c more (.escape hg) hx
        · exact malformed _ ⟨congrArg some hd, not_exists.1 he⟩
      · exact hpiece [d] d rest (.itself hd) rfl

/-- **Reading a name gives what it spells.** -/
theorem unescapeFrom_eq_ok_iff : unescapeFrom p x = .ok s ↔ Spells x s := by
  constructor
  · intro h
    induction x using induction_pieces generalizing p s with
    | nil => exact Except.ok.inj h ▸ .nil
    | piece g c rest hg ih =>
      rw [unescapeFrom_append hg, map_eq_ok] at h
      obtain ⟨t, ht, rfl⟩ := h
      exact .piece hg (ih ht)
    | malformed x hx =>
      rw [unescapeFrom_of_isFault hx] at h
      exact absurd h (by simp)
  · intro h
    induction h generalizing p with
    | nil => rfl
    | piece hg _ ih => rw [unescapeFrom_append hg, ih]; rfl

/-- **Reading a name fails at its first malformed escape.** -/
theorem unescapeFrom_eq_error_iff :
    unescapeFrom p x = .error q ↔ p ≤ q ∧ IsLeast {i | IsFault x i} (q - p) := by
  induction x using induction_pieces generalizing p with
  | nil =>
    refine iff_of_false (by simp [unescapeFrom]) fun h => ?_
    exact absurd h.2.1.1 (by simp)
  | piece g c rest hg ih =>
    have hmap : (unescapeFrom (p + g.length) rest).map (c :: ·) = .error q
        ↔ unescapeFrom (p + g.length) rest = .error q := by
      cases unescapeFrom (p + g.length) rest <;> simp [Except.map]
    rw [unescapeFrom_append hg, hmap, ih, isLeast_fault_append_iff hg,
      Nat.sub_sub, ← and_assoc]
    exact and_congr_left fun _ => by omega
  | malformed x hx =>
    rw [unescapeFrom_of_isFault hx]
    constructor
    · intro h
      obtain rfl := Except.error.inj h
      rw [Nat.sub_self]
      exact ⟨Nat.le_refl _, hx, fun _ _ => Nat.zero_le _⟩
    · rintro ⟨hle, hmin⟩
      have hzero := hmin.2 hx
      rw [show p = q by omega]

theorem unescape_eq_ok_iff : unescape x = .ok s ↔ Spells x s := by
  unfold unescape
  rw [mapError_eq_ok, unescapeFrom_eq_ok_iff]

theorem unescape_eq_error_iff {e : EscapeError} :
    unescape x = .error e
      ↔ e.name = x ∧ IsLeast {i | IsFault x i} e.position := by
  have hfrom := unescapeFrom_eq_error_iff (p := 0) (q := e.position) (x := x)
  rw [Nat.sub_zero, and_iff_right (Nat.zero_le _)] at hfrom
  rw [← hfrom]
  unfold unescape
  obtain ⟨name, position⟩ := e
  cases unescapeFrom 0 x with
  | ok t => simp [Except.mapError]
  | error q => simp [Except.mapError, eq_comm]

/-- **A name can be read exactly if nothing in it is malformed.** -/
theorem exists_unescape_eq_ok_iff :
    (∃ s, unescape x = .ok s) ↔ ∀ i, ¬ IsFault x i := by
  constructor
  · rintro ⟨s, hs⟩ i hi
    classical
    have hex : ∃ i, IsFault x i := ⟨i, hi⟩
    have herror : unescape x = .error ⟨x, Nat.find hex⟩ :=
      unescape_eq_error_iff.2
        ⟨rfl, Nat.find_spec hex, fun _ hj => Nat.find_min' hex hj⟩
    rw [hs] at herror
    exact absurd herror (by simp)
  · intro h
    cases hs : unescape x with
    | ok s => exact ⟨s, rfl⟩
    | error e => exact absurd (unescape_eq_error_iff.1 hs).2.1 (h _)

/-- **A file name is read exactly if every percent sign in it opens an
escape.** What is read is then what the pieces of the name stand for: each
escape is replaced by the code point that it denotes, and everything else is
kept. If a percent sign opens no escape, the error tells the name and the
position of the first such sign. -/
theorem unescape_grammar (x : Text) :
    ((∃ s, unescape x = .ok s)
        ↔ ∀ i, x[i]? = some percent → ∃ c, EscapesAt x i c)
      ∧ (∀ s, unescape x = .ok s ↔ Spells x s)
      ∧ ∀ e, unescape x = .error e
        ↔ e.name = x ∧ IsLeast {i | IsFault x i} e.position := by
  refine ⟨?_, fun s => unescape_eq_ok_iff, fun e => unescape_eq_error_iff⟩
  rw [exists_unescape_eq_ok_iff]
  refine forall_congr' fun i => ?_
  unfold IsFault
  rw [not_and, not_forall_not]

/-- Of two malformed escapes the first is told: its digits denote no code
point. -/
example : unescape (lit "a%00003A%110000%")
    = .error ⟨lit "a%00003A%110000%", 8⟩ := by
  decide +kernel

end FileName

end Lexicon
