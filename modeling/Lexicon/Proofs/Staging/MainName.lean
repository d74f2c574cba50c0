import Lexicon.Proofs.Locale.Reading
import Lexicon.Proofs.Reconciliation.Candidates
import Lexicon.Proofs.Staging.Destination

/-!
# The staged main dictionary of a locale

The main dictionary of a legible locale waits under a name that consists of
the locale's text, the separator and the escaped identifier. The text has
single underscores between words, so the name is cut where the separator was
put, and says what went into it (`Locale.IsLegible.ofText_stagingFileName`).
-/

namespace Lexicon

namespace WordListId

/-- What the identifier of a main dictionary opens with. -/
def mainMark : Text := Category.toText .main ++ [separator]

theorem ofMain_eq (l : Locale) : ofMain l = mainMark ++ l.toText.lower := by
  unfold ofMain toText mainMark
  rw [List.append_assoc, List.singleton_append]

end WordListId

namespace Locale.IsLegible

variable {l : Locale}

/-- The text of a legible locale is words with single underscores between
them. -/
theorem isPlain (h : l.IsLegible) :
    ∀ c ∈ l.toText, FileName.isPlain (c.val : Int) = true := by
  have hword : ∀ {c : CodePoint}, c.isAlphanumeric = true →
      FileName.isPlain (c.val : Int) = true := by
    intro c hc
    refine CodePoint.forall_ascii (P := fun c => c.isAlphanumeric = true →
      FileName.isPlain (c.val : Int) = true) (by decide +kernel)
      (CodePoint.val_lt_of_isAlphanumeric hc) hc
  rw [toText_eq_join l h.language.ne_nil,
    Text.forall_mem_join (P := fun c => FileName.isPlain (c.val : Int) = true)
      (by decide)]
  exact fun part hp c hc => hword ((h.isWord part hp).alphanumeric c hc)

theorem escape_toText (h : l.IsLegible) : FileName.escape l.toText = l.toText :=
  FileName.escape_of_isPlain h.isPlain

theorem toText_ne_nil (h : l.IsLegible) : l.toText ≠ [] := by
  obtain ⟨c, rest, hc⟩ := List.exists_cons_of_ne_nil h.language.ne_nil
  rw [toText_eq_join l h.language.ne_nil]
  unfold words
  rw [hc]
  cases (if l.script = [] then [] else [l.script])
    ++ (if l.region = [] then [] else [l.region])
    ++ (if l.variant = [] then [] else l.variant.split (· == '_')) with
  | nil => rw [Text.join_singleton]; exact List.cons_ne_nil _ _
  | cons _ _ => rw [Text.join_cons_cons]; exact List.cons_ne_nil _ _

/-- **A cut at the separator passes over the text** of a legible locale. -/
theorem cut?_toText_append (h : l.IsLegible) (rest : Text) :
    Text.cut? Layout.separator (l.toText ++ rest)
      = (Text.cut? Layout.separator rest).map
        (Prod.map (l.toText ++ ·) id) := by
  rw [toText_eq_join l h.language.ne_nil]
  refine Text.cut?_join_append (fun part hp => (h.isWord part hp).ne_nil)
    (fun part hp c hc => ?_) rest
  rintro rfl
  exact absurd ((h.isWord part hp).alphanumeric _ hc) (by decide)

theorem escape_ofMain (h : l.IsLegible) :
    FileName.escape (WordListId.ofMain l)
      = FileName.escape WordListId.mainMark ++ l.toText.lower := by
  rw [WordListId.ofMain_eq, FileName.escape_append, ← h.toText_lowered,
    h.lowered.escape_toText]

/-- The separator does not stand in the file name of the main dictionary. -/
theorem includes_escape_ofMain (h : l.IsLegible) :
    (FileName.escape (WordListId.ofMain l)).includes Layout.separator
      = false := by
  have hmark : ∀ c ∈ FileName.escape WordListId.mainMark,
      c ≠ (('_' : Char) : CodePoint) := by
    have hall : (FileName.escape WordListId.mainMark).all
        (· != (('_' : Char) : CodePoint)) = true := rfl
    exact fun c hc => bne_iff_ne.1 (List.all_eq_true.1 hall c hc)
  have htext := h.lowered.cut?_toText_append []
  rw [List.append_nil] at htext
  unfold Text.includes
  rw [h.escape_ofMain, ← h.toText_lowered, Layout.separator,
    Text.cut?_append_of_not_mem hmark, ← Layout.separator, htext]
  rfl

theorem stagingFileName_ofMain (h : l.IsLegible) :
    Layout.stagingFileName (WordListId.ofMain l) l.toText
      = l.toText ++ (Layout.separator
        ++ FileName.escape (WordListId.ofMain l)) := by
  have hseparator : FileName.escape Layout.separator = Layout.separator := by
    decide +kernel
  unfold Layout.stagingFileName
  rw [FileName.escape_append, FileName.escape_append, hseparator,
    h.escape_toText, List.append_assoc]

/-- **The name under which it waits says the locale and the identifier.** -/
theorem ofText_stagingFileName (h : l.IsLegible) :
    StagingName.ofText
        (Layout.stagingFileName (WordListId.ofMain l) l.toText)
      = .ok ⟨l.toText, FileName.escape (WordListId.ofMain l)⟩ := by
  have hid : FileName.escape (WordListId.ofMain l) ≠ [] := by
    rw [Ne, FileName.escape_eq_nil_iff, WordListId.ofMain_eq]
    exact List.cons_ne_nil _ _
  rw [h.stagingFileName_ofMain, StagingName.ofText_eq_ok_iff]
  refine ⟨l.toText, ?_, h.toText_ne_nil, hid, h.includes_escape_ofMain, ?_⟩
  · rw [h.cut?_toText_append]
    show some (l.toText ++ [], _) = _
    rw [List.append_nil]
    rfl
  · have hread := FileName.unescape_escape l.toText
    rw [h.escape_toText] at hread
    exact hread

/-- **The identifier of the main dictionary tells its key.** -/
theorem mainKey?_ofMain (h : l.IsLegible) :
    WordListId.mainKey? (WordListId.ofMain l) = some l.toText.lower := by
  have hsplit : (WordListId.ofMain l).split (· == WordListId.separator)
      = [Category.toText .main, l.toText.lower] := by
    unfold WordListId.ofMain WordListId.toText
    have hmain : (Category.toText .main).all
        (· != WordListId.separator) = true := rfl
    rw [Text.split_append_cons (fun c hc => beq_false_of_ne
        (bne_iff_ne.1 (List.all_eq_true.1 hmain c hc))) rfl,
      Text.split_of_not_mem]
    intro c hc
    rw [← h.toText_lowered] at hc
    have hplain := h.lowered.isPlain c hc
    rw [beq_eq_false_iff_ne]
    rintro rfl
    exact absurd hplain (by decide)
  unfold WordListId.separator at hsplit
  unfold WordListId.mainKey?
  rw [hsplit]
  rfl

end Locale.IsLegible

end Lexicon
