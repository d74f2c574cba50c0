import Mathlib.Data.List.Basic
import Lexicon.Text.Split

/-!
# Texts and their parts

Splitting undoes joining where no part holds a separator, as joining undoes
splitting (`Text.join_split`). The parts hold what the text holds, separators
apart. Where single separators stand between parts that are not empty, a text
is not cut at a separator that opens with two of them, so the cut goes on
behind it (`Text.cut?_join_append`).
-/

namespace Lexicon.Text

variable {isSeparator : CodePoint → Bool} {separator : CodePoint}

/-- A text without an edge to trim stays as it is. -/
theorem trim_of_forall {isEdge : CodePoint → Bool} {t : Text}
    (h : ∀ c ∈ t, isEdge c = false) : t.trim isEdge = t := by
  have hkeep : ∀ {s : Text}, (∀ c ∈ s, isEdge c = false) →
      s.dropWhile isEdge = s := by
    intro s hs
    cases s with
    | nil => rfl
    | cons c rest =>
      rw [List.dropWhile_cons_of_neg]
      rw [hs c List.mem_cons_self]
      exact Bool.false_ne_true
  unfold trim
  rw [hkeep h, hkeep (fun c hc => h c (List.mem_reverse.1 hc)),
    List.reverse_reverse]

theorem split_of_not_mem {t : Text} (h : ∀ c ∈ t, isSeparator c = false) :
    split isSeparator t = [t] := by
  induction t with
  | nil => rfl
  | cons c rest ih =>
    obtain ⟨hc, hrest⟩ := List.forall_mem_cons.1 h
    rw [split, if_neg (by rw [hc]; exact Bool.false_ne_true), ih hrest]

/-- What stands in front of a separator is a part of its own. -/
theorem split_append_cons {part rest : Text}
    (h : ∀ c ∈ part, isSeparator c = false)
    (hs : isSeparator separator = true) :
    split isSeparator (part ++ separator :: rest)
      = part :: split isSeparator rest := by
  induction part with
  | nil => rw [List.nil_append, split, if_pos hs]
  | cons c more ih =>
    obtain ⟨hc, hmore⟩ := List.forall_mem_cons.1 h
    rw [List.cons_append, split, if_neg (by rw [hc]; exact Bool.false_ne_true),
      ih hmore]

@[simp] theorem join_cons_cons (separator : CodePoint) (part next : Text)
    (parts : List Text) :
    join separator (part :: next :: parts)
      = part ++ separator :: join separator (next :: parts) := by
  unfold join
  rw [List.intercalate_cons_cons, List.append_assoc, List.singleton_append]

@[simp] theorem join_singleton (separator : CodePoint) (part : Text) :
    join separator [part] = part := by
  unfold join
  rw [List.intercalate_singleton]

/-- **Splitting undoes joining** if no part holds a separator. -/
theorem split_join (hs : isSeparator separator = true) {parts : List Text}
    (hne : parts ≠ [])
    (h : ∀ part ∈ parts, ∀ c ∈ part, isSeparator c = false) :
    split isSeparator (join separator parts) = parts := by
  induction parts with
  | nil => exact absurd rfl hne
  | cons part parts ih =>
    obtain ⟨hpart, hparts⟩ := List.forall_mem_cons.1 h
    cases parts with
    | nil => rw [join_singleton, split_of_not_mem hpart]
    | cons next more =>
      rw [join_cons_cons, split_append_cons hpart hs,
        ih (List.cons_ne_nil _ _) hparts]

/-- **A joined text holds what its parts hold**, and separators. -/
theorem forall_mem_join {P : CodePoint → Prop} (hs : P separator)
    {parts : List Text} :
    (∀ c ∈ join separator parts, P c) ↔ ∀ part ∈ parts, ∀ c ∈ part, P c := by
  induction parts with
  | nil => simp [join]
  | cons part parts ih =>
    cases parts with
    | nil => simp
    | cons next more =>
      rw [join_cons_cons, List.forall_mem_append, List.forall_mem_cons, ih,
        List.forall_mem_cons (l := next :: more)]
      exact and_congr_right fun _ => and_iff_right hs

/-- Joining goes on behind a separator. -/
theorem join_append (separator : CodePoint) {front back : List Text}
    (hf : front ≠ []) (hb : back ≠ []) :
    join separator (front ++ back)
      = join separator front ++ separator :: join separator back := by
  induction front with
  | nil => exact absurd rfl hf
  | cons part parts ih =>
    cases parts with
    | nil =>
      obtain ⟨next, more, rfl⟩ := List.exists_cons_of_ne_nil hb
      rw [List.singleton_append, join_cons_cons, join_singleton]
    | cons next more =>
      rw [List.cons_append, List.cons_append, join_cons_cons, join_cons_cons,
        ← List.cons_append, ih (List.cons_ne_nil _ _), List.append_assoc,
        List.cons_append]

theorem join_concat (separator : CodePoint) {parts : List Text}
    (hne : parts ≠ []) (last : Text) :
    join separator (parts ++ [last])
      = join separator parts ++ separator :: last := by
  rw [join_append separator hne (List.cons_ne_nil _ _), join_singleton]

/-- What is done to each code point is done to each part. -/
@[simp] theorem map_join (f : CodePoint → CodePoint) (separator : CodePoint)
    (parts : List Text) :
    (join separator parts).map f
      = join (f separator) (parts.map (·.map f)) := by
  induction parts with
  | nil => rfl
  | cons part parts ih =>
    cases parts with
    | nil =>
      rw [join_singleton, List.map_singleton, join_singleton]
    | cons next more =>
      rw [join_cons_cons, List.map_append, List.map_cons, ih]
      exact (join_cons_cons _ _ _ _).symm

/-- What is done to each code point is done to each part, if it makes no
separator and takes none away. -/
theorem split_map {f : CodePoint → CodePoint} {t : Text}
    (h : ∀ c ∈ t, isSeparator (f c) = isSeparator c) :
    split isSeparator (t.map f) = (split isSeparator t).map (·.map f) := by
  induction t with
  | nil => rfl
  | cons c rest ih =>
    obtain ⟨hc, hrest⟩ := List.forall_mem_cons.1 h
    rw [List.map_cons, split, split, hc, ih hrest]
    cases isSeparator c with
    | true => rfl
    | false =>
      cases split isSeparator rest with
      | nil => rfl
      | cons part parts => rfl

/-- A code point of a text is a separator or one of a part. -/
theorem exists_mem_split (isSeparator : CodePoint → Bool) {t : Text}
    {c : CodePoint} (h : c ∈ t) :
    isSeparator c = true ∨ ∃ part ∈ split isSeparator t, c ∈ part := by
  induction t with
  | nil => exact absurd h List.not_mem_nil
  | cons d rest ih =>
    rw [split]
    split
    · rename_i hd
      obtain rfl | h := List.mem_cons.1 h
      · exact Or.inl hd
      · obtain hs | ⟨part, hp, hc⟩ := ih h
        · exact Or.inl hs
        · exact Or.inr ⟨part, List.mem_cons_of_mem _ hp, hc⟩
    · split
      · rename_i hs
        exact absurd hs (split_ne_nil _ _)
      · rename_i part parts hs
        obtain rfl | h := List.mem_cons.1 h
        · exact Or.inr ⟨_, List.mem_cons_self, List.mem_cons_self⟩
        · rw [hs] at ih
          obtain hc | ⟨part', hp, hc⟩ := ih h
          · exact Or.inl hc
          obtain rfl | hp := List.mem_cons.1 hp
          · exact Or.inr ⟨_, List.mem_cons_self, List.mem_cons_of_mem _ hc⟩
          · exact Or.inr ⟨part', List.mem_cons_of_mem _ hp, hc⟩

/-- No part of a text holds a separator. -/
theorem isSeparator_of_mem_split {t part : Text} {c : CodePoint}
    (hp : part ∈ split isSeparator t) (hc : c ∈ part) :
    isSeparator c = false := by
  induction t generalizing part with
  | nil =>
    obtain rfl := List.mem_singleton.1 hp
    exact absurd hc List.not_mem_nil
  | cons d rest ih =>
    rw [split] at hp
    by_cases hd : isSeparator d = true
    · rw [if_pos hd] at hp
      obtain rfl | hp := List.mem_cons.1 hp
      · exact absurd hc List.not_mem_nil
      · exact ih hp hc
    · rw [if_neg hd] at hp
      cases hs : split isSeparator rest with
      | nil => exact absurd hs (split_ne_nil _ _)
      | cons first more =>
        rw [hs] at hp ih
        obtain rfl | hp := List.mem_cons.1 hp
        · obtain rfl | hc := List.mem_cons.1 hc
          · exact Bool.eq_false_iff.2 hd
          · exact ih List.mem_cons_self hc
        · exact ih (List.mem_cons_of_mem _ hp) hc

/-- The first part of a cut opens with what the cut passes over. -/
theorem cut?_append_of_not_mem {d : CodePoint} {more t : Text}
    (h : ∀ c ∈ t, c ≠ d) (rest : Text) :
    cut? (d :: more) (t ++ rest)
      = (cut? (d :: more) rest).map (Prod.map (t ++ ·) id) := by
  induction t with
  | nil =>
    rw [List.nil_append]
    cases cut? (d :: more) rest <;> rfl
  | cons c t ih =>
    obtain ⟨hc, ht⟩ := List.forall_mem_cons.1 h
    have hprefix : (d :: more).isPrefixOf (c :: (t ++ rest)) ≠ true := by
      rw [List.isPrefixOf_cons_cons, beq_false_of_ne (Ne.symm hc)]
      exact Bool.false_ne_true
    rw [List.cons_append, cut?, if_neg hprefix, ih ht]
    cases cut? (d :: more) rest <;> rfl

/-- **A cut passes over parts with single separators between them**, if what
it looks for opens with two. -/
theorem cut?_join_append {d : CodePoint} {more : Text} {parts : List Text}
    (hne : ∀ part ∈ parts, part ≠ []) (h : ∀ part ∈ parts, ∀ c ∈ part, c ≠ d)
    (rest : Text) :
    cut? (d :: d :: more) (join d parts ++ rest)
      = (cut? (d :: d :: more) rest).map (Prod.map (join d parts ++ ·) id) := by
  induction parts with
  | nil =>
    exact cut?_append_of_not_mem (fun _ hc => absurd hc List.not_mem_nil) rest
  | cons part parts ih =>
    obtain ⟨-, hne⟩ := List.forall_mem_cons.1 hne
    obtain ⟨hpart, h⟩ := List.forall_mem_cons.1 h
    cases parts with
    | nil =>
      rw [join_singleton]
      exact cut?_append_of_not_mem hpart rest
    | cons next others =>
      obtain ⟨c, t, ht⟩ := List.exists_cons_of_ne_nil (hne next List.mem_cons_self)
      have hc : c ≠ d :=
        h next List.mem_cons_self c (ht ▸ List.mem_cons_self)
      obtain ⟨t', ht'⟩ : ∃ t', join d (next :: others) ++ rest = c :: t' := by
        cases others with
        | nil => exact ⟨_, by rw [join_singleton, ht]; rfl⟩
        | cons _ _ => exact ⟨_, by rw [join_cons_cons, ht]; rfl⟩
      -- the separator between the parts is followed by no other one
      have hprefix : (d :: d :: more).isPrefixOf
          (d :: (join d (next :: others) ++ rest)) ≠ true := by
        rw [ht', List.isPrefixOf_cons_cons, List.isPrefixOf_cons_cons,
          beq_false_of_ne (Ne.symm hc)]
        simp
      rw [join_cons_cons, List.append_assoc, cut?_append_of_not_mem hpart,
        List.cons_append, cut?, if_neg hprefix, ih hne h]
      cases cut? (d :: d :: more) rest with
      | none => rfl
      | some cut => simp [Prod.map]

end Lexicon.Text
