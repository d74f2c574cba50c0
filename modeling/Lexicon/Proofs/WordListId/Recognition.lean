import Lexicon.Proofs.FileName.Alphabet
import Lexicon.Proofs.Text.Parts
import Lexicon.WordListId

/-!
# How identifiers are recognised

An identifier is read by splitting it at its colons, and what is read spells
the text again, since neither part holds a colon (`ofText?_eq_some_iff`). The
category of a file name is found by a way of its own, but it is the category of
the identifier that the name escapes (`category?_eq`), so that a main word list
is recognised alike by its identifier, by its parts and by the name of its file
(`isMain_recognised`).
-/

namespace Lexicon

namespace WordListId

variable {t : Text} {i : WordListId}

/-- A text is split into two parts exactly if it is these two with the only
separator between them. -/
theorem split_eq_pair_iff {category key : Text} :
    t.split (· == separator) = [category, key]
      ↔ separator ∉ category ∧ separator ∉ key
        ∧ t = category ++ separator :: key := by
  have hclear : ∀ {part : Text}, separator ∉ part →
      ∀ c ∈ part, (c == separator) = false := by
    intro part hpart c hc
    exact beq_false_of_ne fun he => hpart (he ▸ hc)
  constructor
  · intro h
    have hpart : ∀ part ∈ [category, key], separator ∉ part := fun part hp hm =>
      absurd (Text.isSeparator_of_mem_split (h ▸ hp) hm) (by simp)
    refine ⟨hpart _ (by simp), hpart _ (by simp), ?_⟩
    rw [← Text.join_split separator t, h, Text.join_cons_cons,
      Text.join_singleton]
  · rintro ⟨hcategory, hkey, rfl⟩
    rw [Text.split_append_cons (hclear hcategory) (beq_self_eq_true _),
      Text.split_of_not_mem (hclear hkey)]

/-- **An identifier is read off a text** exactly if it spells the text and
neither of its parts holds a colon. -/
theorem ofText?_eq_some_iff :
    ofText? t = some i
      ↔ separator ∉ i.rawCategory ∧ separator ∉ i.localeKey ∧ t = i.toText := by
  unfold toText
  rw [← split_eq_pair_iff]
  obtain ⟨category, key⟩ := i
  unfold ofText?
  rcases t.split (· == separator) with - | ⟨a, - | ⟨b, - | ⟨c, rest⟩⟩⟩ <;> simp

@[simp] theorem category?_eq_main_iff :
    i.category? = some .main ↔ i.rawCategory = Category.toText .main := by
  unfold category? Category.ofText?
  split <;> simp_all

theorem isMain_eq_true_iff :
    isMain t = true
      ↔ ∃ i, ofText? t = some i ∧ i.category? = some .main := by
  unfold isMain
  simp only [Option.any_eq_true, beq_iff_eq]

/-- **The identifier of a main word list** opens with its category and goes on
with a key that holds no colon. -/
theorem isMain_iff_exists_key :
    isMain t = true ↔ ∃ key, separator ∉ key ∧ t = lit "main:" ++ key := by
  rw [isMain_eq_true_iff]
  constructor
  · rintro ⟨⟨category, key⟩, hi, hc⟩
    obtain ⟨-, hkey, rfl⟩ := ofText?_eq_some_iff.1 hi
    obtain rfl : category = Category.toText .main := category?_eq_main_iff.1 hc
    exact ⟨key, hkey, rfl⟩
  · rintro ⟨key, hkey, rfl⟩
    have hmain : separator ∉ Category.toText .main := by decide
    exact ⟨⟨Category.toText .main, key⟩,
      ofText?_eq_some_iff.2 ⟨hmain, hkey, rfl⟩, category?_eq_main_iff.2 rfl⟩

end WordListId

/-- **The category of a file name** is the one of the identifier that the name
escapes, if it escapes one. -/
theorem FileName.category?_eq (name : Text) :
    category? name
      = ((unescape name).toOption.bind WordListId.ofText?).map
        (·.rawCategory) := by
  unfold category? WordListId.ofText?
  cases unescape name with
  | error e => rfl
  | ok t =>
    dsimp only [Except.toOption, Option.bind]
    rcases t.split (· == WordListId.separator)
      with - | ⟨a, - | ⟨b, - | ⟨c, rest⟩⟩⟩ <;> rfl

namespace WordListId

/-- **Main word lists are recognised alike** however they are given. A text is
the identifier of one if and only if the name of its file has their category,
if and only if it is read as an identifier of theirs, and this holds of the
texts that open with `main:` and hold no other colon. The category of any name
of a file is the one that its identifier is written with, if it has an
identifier, and an identifier is written as it was read. -/
theorem isMain_recognised (t name : Text) :
    (isMain t = true
        ↔ FileName.category? (FileName.escape t) = some (Category.toText .main))
      ∧ (isMain t = true
        ↔ ∃ i, ofText? t = some i ∧ i.category? = some .main)
      ∧ (isMain t = true ↔ ∃ key, separator ∉ key ∧ t = lit "main:" ++ key)
      ∧ FileName.category? name
        = (match FileName.unescape name with
          | .ok id => (ofText? id).map (·.rawCategory)
          | .error _ => none)
      ∧ ∀ i, ofText? t = some i → i.toText = t := by
  refine ⟨?_, isMain_eq_true_iff, isMain_iff_exists_key, ?_, fun i hi => ?_⟩
  · rw [FileName.category?_eq, FileName.unescape_escape, isMain_eq_true_iff,
      Except.toOption, Option.bind_some, Option.map_eq_some_iff]
    exact exists_congr fun i => and_congr_right fun _ => category?_eq_main_iff
  · rw [FileName.category?_eq]
    cases FileName.unescape name <;> rfl
  · exact (ofText?_eq_some_iff.1 hi).2.2.symm

/-- An identifier with the category of a main word list in upper case is read
and written, but not recognised. -/
theorem isMain_recognised_sample :
    ofText? (lit "MAIN:en") = some ⟨lit "MAIN", lit "en"⟩
      ∧ (⟨lit "MAIN", lit "en"⟩ : WordListId).toText = lit "MAIN:en"
      ∧ isMain (lit "MAIN:en") = false := by
  obtain ⟨-, hread, -, -, htext⟩ := isMain_recognised (lit "MAIN:en") []
  have hid : ofText? (lit "MAIN:en") = some ⟨lit "MAIN", lit "en"⟩ := by decide
  refine ⟨hid, htext _ hid, Bool.eq_false_iff.2 fun hmain => ?_⟩
  obtain ⟨i, hi, hc⟩ := hread.1 hmain
  obtain rfl := Option.some.inj (hid.symm.trans hi)
  exact absurd hc (by decide)

end WordListId

end Lexicon
