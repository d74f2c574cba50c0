import Lexicon.Text.CodePoint

/-!
# Cutting and joining texts

A text is split at every code point of a class (`split`), which never gives
fewer than one part, or cut once at the first place where a given separator
stands (`cut?`). `join` is the way back from `split`.
-/

namespace Lexicon.Text

/-- **The parts between the separators**, in order. A separator at an end or
beside another one leaves an empty part, so there is one part more than there
are separators. -/
def split (isSeparator : CodePoint → Bool) : Text → List Text
  | [] => [[]]
  | c :: rest =>
    if isSeparator c then [] :: split isSeparator rest
    else
      match split isSeparator rest with
      | [] => [[c]]
      | part :: parts => (c :: part) :: parts

/-- The parts put together again, with one separator between neighbours. -/
def join (separator : CodePoint) (parts : List Text) : Text :=
  [separator].intercalate parts

/-- Whether `t` opens with `s`. -/
def startsWith (t s : Text) : Bool :=
  s.isPrefixOf t

/-- Whether `t` closes with `s`. -/
def endsWith (t s : Text) : Bool :=
  s.isSuffixOf t

/-- **What stands before and after the first occurrence of a separator**, or
nothing if the text does not contain it. -/
def cut? (separator : Text) : Text → Option (Text × Text)
  | [] => if separator = [] then some ([], []) else none
  | c :: rest =>
    if separator.isPrefixOf (c :: rest) then
      some ([], (c :: rest).drop separator.length)
    else
      (cut? separator rest).map fun (before, after) => (c :: before, after)

/-- Whether a separator occurs anywhere in a text. -/
def includes (t separator : Text) : Bool :=
  (cut? separator t).isSome

/-- A text without what it closes with: the last `n` code points. -/
def dropLastN (t : Text) (n : Nat) : Text :=
  t.take (t.length - n)

/-- The text without the code points of a class at its two ends. -/
def trim (isEdge : CodePoint → Bool) (t : Text) : Text :=
  ((t.dropWhile isEdge).reverse.dropWhile isEdge).reverse

/-- A cut loses only the separator. -/
theorem eq_of_cut? {separator t before after : Text}
    (h : cut? separator t = some (before, after)) :
    t = before ++ separator ++ after := by
  induction t generalizing before after with
  | nil =>
    unfold cut? at h
    split at h <;> simp_all
  | cons c rest ih =>
    unfold cut? at h
    split at h
    · rename_i hp
      obtain ⟨tail, ht⟩ := List.isPrefixOf_iff_prefix.1 hp
      simp only [Option.some.injEq, Prod.mk.injEq] at h
      obtain ⟨rfl, rfl⟩ := h
      rw [← ht]
      simp
    · obtain ⟨⟨b, a⟩, hb, he⟩ := Option.map_eq_some_iff.1 h
      simp only [Prod.mk.injEq] at he
      obtain ⟨rfl, rfl⟩ := he
      rw [ih hb]
      simp

@[simp] theorem split_ne_nil (isSeparator : CodePoint → Bool) (t : Text) :
    split isSeparator t ≠ [] := by
  cases t with
  | nil => simp [split]
  | cons c rest =>
    unfold split
    split
    · simp
    · split <;> simp

/-- **Joining undoes splitting** at one separator. -/
@[simp] theorem join_split (separator : CodePoint) (t : Text) :
    join separator (split (· == separator) t) = t := by
  induction t with
  | nil => rfl
  | cons c rest ih =>
    unfold split
    split
    · rename_i h
      rw [beq_iff_eq] at h
      cases hs : split (· == separator) rest with
      | nil => exact absurd hs (split_ne_nil _ _)
      | cons part parts =>
        rw [hs] at ih
        simpa [join, List.intercalate, h] using ih
    · cases hs : split (· == separator) rest with
      | nil => exact absurd hs (split_ne_nil _ _)
      | cons part parts =>
        rw [hs] at ih
        cases parts with
        | nil => simpa [join, List.intercalate] using ih
        | cons q qs => simpa [join, List.intercalate] using ih

end Lexicon.Text
