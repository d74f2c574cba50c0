import Lexicon.FileTree.Locate
import Lexicon.Proofs.FileName.Alphabet
import Lexicon.Proofs.Outcome
import Lexicon.Proofs.Text.Parts

/-!
# Names in paths

A text that holds no slash is a single component of a path, unless it is a
single dot or empty, and then it says nothing. Whether a path can be passed on
depends on the code points of its components alone (`Path.checkText_eq_ok_iff`),
and a path that goes on is longer than one that does not, so what is passed on
can be passed on in part.
-/

namespace Lexicon

/-- Whether a code point can stand in what is passed to the system. -/
def CodePoint.isPassable (c : CodePoint) : Bool :=
  !(c.isSurrogate && !c.isEscapedByte) && c != 0

/-- A name has bytes exactly if it has no surrogates but escaped bytes. -/
theorem Utf8.nameRunFrom?_eq_none_iff (position : Nat) (name : Text) :
    nameRunFrom? position name = none
      ↔ ∀ c ∈ name, (c.isSurrogate && !c.isEscapedByte) = false := by
  induction name generalizing position with
  | nil => simp [nameRunFrom?]
  | cons c rest ih =>
    rw [nameRunFrom?, List.forall_mem_cons]
    split
    · rename_i h
      simp [h]
    · rename_i h
      rw [ih, Bool.not_eq_true] at *
      simp [h]

/-- **A text can be passed on** exactly if its code points can. -/
theorem FileError.ofText?_eq_none_iff {t : Text} :
    ofText? t = none ↔ ∀ c ∈ t, c.isPassable = true := by
  have hsplit : (∀ c ∈ t, c.isPassable = true)
      ↔ (∀ c ∈ t, (c.isSurrogate && !c.isEscapedByte) = false)
        ∧ ∀ c ∈ t, c ≠ 0 := by
    rw [← forall₂_and]
    refine forall₂_congr fun c _ => ?_
    unfold CodePoint.isPassable
    rw [Bool.and_eq_true, Bool.not_eq_true', bne_iff_ne]
  rw [hsplit, ← Utf8.nameRunFrom?_eq_none_iff 0]
  unfold ofText? Utf8.nameRun?
  cases Utf8.nameRunFrom? 0 t with
  | some run => simp
  | none =>
    simp only [true_and, ite_eq_right_iff, reduceCtorEq, imp_false,
      List.any_eq_true, beq_iff_eq, not_exists, not_and]

namespace Path

variable {p : Path} {name : Text}

/-! ## Components -/

/-- **A name that a directory can show**: some text without a slash that leads
to an entry, spelled as its bytes are shown. -/
structure IsEntryName (name : Text) : Prop where
  /-- It is not empty. -/
  ne_nil : name ≠ []
  /-- It does not stay where it is. -/
  ne_dot : name ≠ dot
  /-- It does not lead upward. -/
  ne_dotDot : name ≠ dotDot
  /-- It is a single component. -/
  slash_not_mem : slash ∉ name
  /-- It is shown as it is spelled. -/
  respell_eq : Utf8.respell name = name

instance (name : Text) : Decidable (IsEntryName name) :=
  decidable_of_iff (name ≠ [] ∧ name ≠ dot ∧ name ≠ dotDot ∧ slash ∉ name
    ∧ Utf8.respell name = name)
    ⟨fun ⟨h₁, h₂, h₃, h₄, h₅⟩ => ⟨h₁, h₂, h₃, h₄, h₅⟩,
      fun h => ⟨h.1, h.2, h.3, h.4, h.5⟩⟩

/-- A text without a slash is no path of its own. -/
theorem anchorOf_of_slash_not_mem (h : slash ∉ name) :
    anchorOf name = .relative := by
  have hnil : name.takeWhile (· == slash) = [] := by
    cases name with
    | nil => rfl
    | cons c rest =>
      rw [List.takeWhile_cons_of_neg]
      rw [beq_iff_eq]
      exact fun hc => h (hc ▸ List.mem_cons_self)
  unfold anchorOf
  rw [hnil]
  rfl

/-- A text without a slash is at most one component. -/
theorem partsOf_of_slash_not_mem (h : slash ∉ name) :
    partsOf name = if name = [] ∨ name = dot then [] else [name] := by
  have hsplit : name.split (· == slash) = [name] := by
    refine Text.split_of_not_mem fun c hc => ?_
    rw [beq_eq_false_iff_ne]
    exact fun hs => h (hs ▸ hc)
  unfold partsOf
  rw [hsplit]
  by_cases hn : name = [] ∨ name = dot
  · rw [if_pos hn, List.filter_cons_of_neg, List.filter_nil]
    rw [Bool.not_eq_true, Bool.and_eq_false_iff, bne_eq_false_iff_eq,
      bne_eq_false_iff_eq]
    exact hn
  · rw [if_neg hn, List.filter_cons_of_pos, List.filter_nil]
    simpa [not_or] using hn

/-- **A text without a slash leads to an entry**, or nowhere else. -/
theorem appendText_of_slash_not_mem (p : Path) (h : slash ∉ name) :
    p.appendText name = if name = [] ∨ name = dot then p else p.child name := by
  unfold appendText append ofText child
  rw [anchorOf_of_slash_not_mem h, partsOf_of_slash_not_mem h, if_pos rfl]
  split
  · dsimp only
    rw [List.append_nil]
  · rfl

/-- **A name that a directory can show leads to its entry.** -/
theorem IsEntryName.appendText_eq (h : IsEntryName name) (p : Path) :
    p.appendText name = p.child name := by
  rw [appendText_of_slash_not_mem p h.slash_not_mem,
    if_neg (not_or.2 ⟨h.ne_nil, h.ne_dot⟩)]

theorem appendText_escape (p : Path) {key : Text} (hk : key ≠ []) :
    p.appendText (FileName.escape key) = p.child (FileName.escape key) := by
  rw [appendText_of_slash_not_mem p (FileName.slash_not_mem_escape key), if_neg]
  rintro (h | h)
  · exact hk (FileName.escape_eq_nil_iff.1 h)
  · exact FileName.escape_ne_dot key h

@[simp] theorem appendText_escape_nil (p : Path) :
    p.appendText (FileName.escape []) = p :=
  (appendText_of_slash_not_mem p List.not_mem_nil).trans
    (if_pos (Or.inl rfl))

/-- **An escaped name put behind a path** is one component more, if there is
any. -/
theorem appendText_escape_eq (p : Path) (t : Text) :
    p.appendText (FileName.escape t) = { p with
      parts := p.parts ++ if t = [] then [] else [FileName.escape t] } := by
  by_cases ht : t = []
  · subst ht
    rw [if_pos rfl, List.append_nil, appendText_escape_nil]
  · rw [appendText_escape p ht, if_neg ht]
    rfl

theorem parts_appendText_escape (p : Path) (t : Text) :
    (p.appendText (FileName.escape t)).parts
      = p.parts ++ if t = [] then [] else [FileName.escape t] :=
  congrArg parts (appendText_escape_eq p t)

@[simp] theorem child_inj {q : Path} {other : Text} :
    p.child name = q.child other ↔ p = q ∧ name = other := by
  obtain ⟨anchor, parts⟩ := p
  obtain ⟨anchor', parts'⟩ := q
  unfold child
  rw [mk.injEq, mk.injEq, List.append_singleton_inj, and_assoc]

/-! ## Passing paths on -/

/-- **What holds of every code point of a path** holds of those of its
components, if it does of the signs that a path is put together with. -/
theorem forall_mem_toText {P : CodePoint → Prop} (hslash : P slash)
    (hdot : P 0x2E) :
    (∀ c ∈ p.toText, P c) ↔ ∀ part ∈ p.parts, ∀ c ∈ part, P c := by
  have hanchor : ∀ c ∈ anchorText p.anchor, P c := by
    intro c hc
    have hc : c = slash := by
      cases hp : p.anchor <;> rw [hp, anchorText] at hc <;> simp_all
    rw [hc]
    exact hslash
  unfold toText
  split
  · rename_i h
    rw [h.2]
    simp only [List.not_mem_nil, false_implies, implies_true, iff_true]
    exact fun c hc => List.mem_singleton.1 hc ▸ hdot
  · rw [List.forall_mem_append, and_iff_right hanchor,
      Text.forall_mem_join hslash]

/-- **A path can be passed on** exactly if the code points of its components
can. -/
theorem checkText_eq_ok_iff :
    p.checkText = .ok () ↔ ∀ part ∈ p.parts, ∀ c ∈ part, c.isPassable = true := by
  have htext : p.checkText = .ok () ↔ FileError.ofText? p.toText = none := by
    unfold checkText
    cases FileError.ofText? p.toText <;> simp
  rw [htext, FileError.ofText?_eq_none_iff]
  exact forall_mem_toText (P := (CodePoint.isPassable · = true)) rfl rfl

/-- A path that cannot be passed on holds a zero, or surrogates that stand for
no byte. -/
theorem checkText_eq_error {e : FileError} (h : p.checkText = .error e) :
    e = .embeddedZero ∨ ∃ run, e = .unencodable run := by
  unfold checkText at h
  split at h
  · rename_i hrefused
    rw [← Except.error.inj h]
    unfold FileError.ofText? at hrefused
    split at hrefused
    · exact Or.inr ⟨_, (Option.some.inj hrefused).symm⟩
    · split at hrefused
      · exact Or.inl (Option.some.inj hrefused).symm
      · exact absurd hrefused (by simp)
  · exact absurd h (by simp)

@[simp] theorem checkText_child :
    (p.child name).checkText = .ok ()
      ↔ p.checkText = .ok () ∧ ∀ c ∈ name, c.isPassable = true := by
  rw [checkText_eq_ok_iff, checkText_eq_ok_iff, child, List.forall_mem_append]
  simp

/-- A path reaches the system exactly if it can be passed on and is not too
long. -/
theorem check_eq_ok_iff :
    p.check = .ok () ↔ p.checkText = .ok () ∧ p.isOverlong = false := by
  unfold check checkLength
  rw [bind_eq_ok]
  constructor
  · rintro ⟨⟨⟩, ht, hl⟩
    refine ⟨ht, ?_⟩
    cases hp : p.isOverlong with
    | false => rfl
    | true =>
      rw [hp] at hl
      exact absurd hl (by simp)
  · rintro ⟨ht, hl⟩
    refine ⟨(), ht, ?_⟩
    rw [hl]
    rfl

/-- The text of an entry goes on behind what every entry there opens with. -/
theorem exists_toText_child (p : Path) :
    ∃ front, ∀ name, (p.child name).toText = front ++ name := by
  rcases hp : p.parts with - | ⟨part, parts⟩
  · refine ⟨anchorText p.anchor, fun name => ?_⟩
    unfold toText child
    rw [hp, if_neg (fun h => absurd h.2 (by simp)), List.nil_append,
      Text.join_singleton]
  · refine ⟨anchorText p.anchor ++ Text.join slash p.parts ++ [slash],
      fun name => ?_⟩
    have hne : p.parts ≠ [] := by
      rw [hp]
      exact List.cons_ne_nil _ _
    unfold toText child
    rw [if_neg (fun h => absurd h.2 (by simp)), Text.join_concat slash hne]
    simp

@[simp] theorem toText_child_child (p : Path) (name other : Text) :
    ((p.child name).child other).toText
      = (p.child name).toText ++ slash :: other := by
  have hne : (p.child name).parts ≠ [] := by simp [child]
  have hne' : ((p.child name).child other).parts ≠ [] := by simp [child]
  unfold toText
  rw [if_neg (fun h => hne' h.2), if_neg (fun h => hne h.2), List.append_assoc,
    ← Text.join_concat slash hne]
  rfl

/-- What goes on to an entry is not shorter. -/
theorem isOverlong_of_child (h : (p.child name).isOverlong = false) :
    p.isOverlong = false := by
  obtain ⟨anchor, parts⟩ := p
  rcases List.eq_nil_or_concat' parts with rfl | ⟨outer, part, rfl⟩
  · cases anchor <;> decide +kernel
  · have htext := toText_child_child ⟨anchor, outer⟩ part name
    unfold isOverlong child at *
    rw [htext, Utf8.encodeName_append, List.length_append] at h
    rw [decide_eq_false_iff_not] at h ⊢
    dsimp only at h ⊢
    omega

/-- **What reaches the system with an entry more** reaches it without. -/
theorem check_of_check_child (h : (p.child name).check = .ok ()) :
    p.check = .ok () := by
  rw [check_eq_ok_iff] at h ⊢
  exact ⟨(checkText_child.1 h.1).1, isOverlong_of_child h.2⟩

end Path

end Lexicon
