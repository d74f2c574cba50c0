import Lexicon.FileName
import Lexicon.Path

/-!
# What escaped names are made of

An escaped name holds nothing but ASCII letters, digits, underscores and
percent signs. So it is no dot, leads nowhere else, can be passed to any
system and has as many bytes as code points. Reading it gives the name that was
escaped, so no two names are escaped alike (`FileName.escape_exact`), and what
was read from a file name is empty only where the file name is.
-/

namespace Lexicon

namespace Hex

theorem mem_fixed {c : CodePoint} {width n : Nat} (h : c ∈ fixed width n) :
    ∃ k : Fin 16, c = digit k.val := by
  induction width generalizing n with
  | zero => exact absurd h List.not_mem_nil
  | succ width ih =>
    rw [fixed, List.mem_append, List.mem_singleton] at h
    obtain h | rfl := h
    · exact ih h
    · exact ⟨⟨n % 16, Nat.mod_lt _ (by decide)⟩, rfl⟩

end Hex

namespace FileName

theorem escape_cons_of_isPlain {c : CodePoint}
    (hc : isPlain (c.val : Int) = true) (rest : Text) :
    escape (c :: rest) = c :: escape rest := by
  rw [escape, List.flatMap_cons, ← escape, escapeCodePoint, if_pos hc]
  rfl

theorem escape_of_isPlain {name : Text}
    (h : ∀ c ∈ name, isPlain (c.val : Int) = true) : escape name = name := by
  induction name with
  | nil => rfl
  | cons c rest ih =>
    obtain ⟨hc, hrest⟩ := List.forall_mem_cons.1 h
    rw [escape_cons_of_isPlain hc, ih hrest]

/-- **Reading takes back what writing did.** -/
@[simp] theorem unescape_escape (name : Text) :
    unescape (escape name) = .ok name := by
  unfold unescape
  rw [unescapeFrom_escape]
  rfl

/-- **The alphabet of escaped names**: what stands for itself, and the percent
sign. -/
def inAlphabet (c : CodePoint) : Bool :=
  isPlain c.val || c == percent

/-- **The alphabet spelled out**: the decimal digits, the ASCII letters of
either case, the underscore and the percent sign. -/
theorem inAlphabet_iff {c : CodePoint} :
    inAlphabet c = true
      ↔ (('0' : CodePoint) ≤ c ∧ c ≤ '9') ∨ ('A' ≤ c ∧ c ≤ 'Z')
        ∨ ('a' ≤ c ∧ c ≤ 'z') ∨ c = '_' ∨ c = '%' := by
  have hle : ∀ d e : Char, (CodePoint.ofChar d ≤ c ∧ c ≤ CodePoint.ofChar e)
      ↔ d.toNat ≤ c.val ∧ c.val ≤ e.toNat := fun d e => Iff.rfl
  have heq : ∀ d : Char, c = CodePoint.ofChar d ↔ c.val = d.toNat :=
    fun d => Fin.ext_iff
  rw [hle, hle, hle, heq, heq]
  unfold inAlphabet isPlain percent
  simp only [Bool.or_eq_true, Bool.and_eq_true, decide_eq_true_eq, beq_iff_eq,
    Fin.ext_iff]
  simp only [Char.reduceToNat]
  omega

/-- **Escaping keeps to its alphabet.** -/
theorem inAlphabet_of_mem_escape {c : CodePoint} {name : Text}
    (h : c ∈ escape name) : inAlphabet c = true := by
  obtain ⟨d, -, hc⟩ := List.mem_flatMap.1 h
  unfold escapeCodePoint at hc
  unfold inAlphabet
  split at hc
  · rename_i hd
    rw [List.mem_singleton.1 hc, hd]
    rfl
  · obtain rfl | hc := List.mem_cons.1 hc
    · decide
    · obtain ⟨k, rfl⟩ := Hex.mem_fixed hc
      have hdigit : ∀ k : Fin 16, isPlain (Hex.digit k.val).val = true := by
        decide
      rw [hdigit k]
      rfl

/-- The alphabet is ASCII, without zero, dot and slash. -/
theorem of_inAlphabet {c : CodePoint} (h : inAlphabet c = true) :
    c.val < 0x80 ∧ c ≠ 0 ∧ c ≠ 0x2E ∧ c ≠ Path.slash := by
  unfold inAlphabet isPlain percent at h
  unfold Path.slash
  simp only [Bool.or_eq_true, Bool.and_eq_true, decide_eq_true_eq,
    beq_iff_eq] at h
  refine ⟨?_, ?_, ?_, ?_⟩
  · obtain (((h | h) | h) | h) | rfl := h
    · omega
    · omega
    · omega
    · omega
    · decide
  all_goals
    rintro rfl
    exact absurd h (by decide)

@[simp] theorem slash_not_mem_escape (name : Text) : Path.slash ∉ escape name :=
  fun h => (of_inAlphabet (inAlphabet_of_mem_escape h)).2.2.2 rfl

@[simp] theorem dot_not_mem_escape (name : Text) :
    (0x2E : CodePoint) ∉ escape name :=
  fun h => (of_inAlphabet (inAlphabet_of_mem_escape h)).2.2.1 rfl

@[simp] theorem escape_ne_dot (name : Text) : escape name ≠ Path.dot :=
  fun h => dot_not_mem_escape name (h ▸ List.mem_cons_self)

@[simp] theorem escape_ne_dotDot (name : Text) : escape name ≠ Path.dotDot :=
  fun h => dot_not_mem_escape name (h ▸ List.mem_cons_self)

/-- Only the empty name is escaped to nothing. -/
@[simp] theorem escape_eq_nil_iff {name : Text} :
    escape name = [] ↔ name = [] := by
  constructor
  · intro h
    cases name with
    | nil => rfl
    | cons c rest =>
      rw [escape, List.flatMap_cons, List.append_eq_nil_iff] at h
      obtain ⟨hc, -⟩ := h
      unfold escapeCodePoint at hc
      split at hc <;> exact absurd hc (List.cons_ne_nil _ _)
  · rintro rfl
    rfl

/-- What is read from a name that is not empty is not empty. -/
theorem ne_nil_of_unescape {name key : Text} (hn : name ≠ [])
    (h : unescape name = .ok key) : key ≠ [] := by
  obtain ⟨c, rest, rfl⟩ := List.exists_cons_of_ne_nil hn
  have hcons : ∀ {d : CodePoint} {r : Except Nat Text} {t : Text},
      r.map (d :: ·) = .ok t → t ≠ [] := by
    rintro d (e | u) t hr
    · exact absurd hr (by simp [Except.map])
    · rw [← Except.ok.inj hr]
      exact List.cons_ne_nil _ _
  have hfrom : unescapeFrom 0 (c :: rest) = .ok key := by
    unfold unescape at h
    rcases hu : unescapeFrom 0 (c :: rest) with e | t
    · rw [hu] at h
      cases h
    · rw [hu] at h
      exact congrArg Except.ok (Except.ok.inj h)
  unfold unescapeFrom at hfrom
  split at hfrom
  · split at hfrom
    · split at hfrom
      · exact hcons hfrom
      · exact absurd hfrom (by simp)
    · exact absurd hfrom (by simp)
  · exact hcons hfrom

/-! ## The exact pair -/

/-- **No two names are escaped alike.** -/
theorem escape_injective : Function.Injective escape := by
  intro s t h
  have hread := congrArg unescape h
  rw [unescape_escape, unescape_escape] at hread
  exact Except.ok.inj hread

@[simp] theorem escape_inj {s t : Text} : escape s = escape t ↔ s = t :=
  escape_injective.eq_iff

/-- **Escaping and reading are an exact pair.** Whatever code points a name
holds, its escaped name reads back as the name and is made of digits, ASCII
letters, underscores and percent signs alone; names are escaped piece by piece,
and no two of them alike. -/
theorem escape_exact :
    (∀ name, unescape (escape name) = .ok name)
      ∧ (∀ name, ∀ c ∈ escape name,
        (('0' : CodePoint) ≤ c ∧ c ≤ '9') ∨ ('A' ≤ c ∧ c ≤ 'Z')
          ∨ ('a' ≤ c ∧ c ≤ 'z') ∨ c = '_' ∨ c = '%')
      ∧ (∀ s t, escape (s ++ t) = escape s ++ escape t)
      ∧ Function.Injective escape :=
  ⟨unescape_escape, fun _ _ hc => inAlphabet_iff.1 (inAlphabet_of_mem_escape hc),
    escape_append, escape_injective⟩

end FileName

end Lexicon
