import Mathlib.Data.List.Induction
import Lexicon.Proofs.Staging.Turn

/-!
# What a run of promotions has done

The history of a run tells of each staged file whose turn has come where it
went, if it was moved. `Layout.Accounts` says that a tree is the one that the
run started from but for what the history tells: malformed and moved files are
gone from where they waited, each destination holds what was moved there last,
and everything else is as it was or a new directory of a locale. It is the
invariant of the run: gaining such directories keeps it, and each thing that a
turn can do keeps it with that turn in the history (`Accounts.pass`,
`Accounts.discard`, `Accounts.move`).
-/

namespace Lexicon

/-- **A staged file whose turn has come.** -/
structure Taken where
  /-- Its name. -/
  name : Text
  /-- What it held. -/
  file : File
  /-- Where it was moved to, if it was. -/
  target? : Option Path

namespace Layout

/-- Whether a name has a separator but leads to no place in the cache. -/
def IsMalformed (l : Layout) (name : Text) : Prop :=
  name.includes separator = true ∧ l.destination? name = none

/-- Whether a file is gone from where it waited. -/
def IsSpent (l : Layout) (h : Taken) : Prop :=
  l.IsMalformed h.name ∨ h.target?.isSome = true

/-- **What was moved to a path last**, if anything was. -/
def landing (history : List Taken) (target : Path) : Option File :=
  history.foldl
    (fun last h => if h.target? = some target then some h.file else last) none

/-- Whether a place is that of a directory which some staged file's locale
brings along. -/
def IsNewDir (top : Place) (staged : List (Text × File)) (place : Place) : Prop :=
  ∃ e ∈ staged, ∃ s, StagingName.ofText e.1 = .ok s
    ∧ IsCacheDir top s.localeKey place

/-- **A tree accounts for a history** of turns of staged files, if it differs
from the one before by what the history tells and by directories of locales. -/
structure Accounts (l : Layout) (top : Place) (staged : List (Text × File))
    (before : FileTree) (history : List Taken) (t : FileTree) : Prop where
  /-- Each file had a name of its own. -/
  named : ∀ h ∈ history, Path.IsEntryName h.name
  /-- A file that was moved went where its name tells. -/
  target : ∀ h ∈ history, ∀ m, h.target? = some m →
    ∃ s, StagingName.ofText h.name = .ok s ∧ m = l.destination s
  /-- No directory is gone. -/
  keepsDirs : before.KeepsDirs t
  /-- What was malformed or moved is gone. -/
  gone : ∀ h ∈ history, l.IsSpent h →
    t.kind? (stagingPlace top ++ [h.name]) = none
  /-- Each destination holds what was moved there last. -/
  landed : ∀ h ∈ history, ∀ s, StagingName.ofText h.name = .ok s →
    h.target? = some (l.destination s) →
    t.locate (l.destination s) = .ok (destinationPlace top s)
      ∧ ∃ f, landing history (l.destination s) = some f
        ∧ t.kind? (destinationPlace top s) = some (.file f)
  /-- Everything else is as it was, or a new directory. -/
  other : ∀ q,
    (∀ h ∈ history, l.IsSpent h → q ≠ stagingPlace top ++ [h.name]) →
    (∀ h ∈ history, ∀ s, StagingName.ofText h.name = .ok s →
      h.target? = some (l.destination s) → q ≠ destinationPlace top s) →
    t.kind? q = before.kind? q
      ∨ (before.kind? q = none ∧ t.kind? q = some .dir ∧ IsNewDir top staged q)

/-! ## What was moved last -/

theorem landing_concat (history : List Taken) (h : Taken) (target : Path) :
    landing (history ++ [h]) target
      = if h.target? = some target then some h.file
        else landing history target := by
  unfold landing
  rw [List.foldl_append]
  rfl

/-- What was moved to a path last was moved there, and nothing after it was. -/
theorem exists_of_landing {history : List Taken} {target : Path} {f : File}
    (h : landing history target = some f) :
    ∃ earlier h later, history = earlier ++ h :: later
      ∧ h.target? = some target ∧ h.file = f
      ∧ ∀ h' ∈ later, h'.target? ≠ some target := by
  induction history using List.reverseRecOn with
  | nil => exact absurd h (by simp [landing])
  | append_singleton history last ih =>
    rw [landing_concat] at h
    split at h
    · rename_i hlast
      exact ⟨history, last, [], rfl, hlast, Option.some.inj h,
        fun h' hm => absurd hm List.not_mem_nil⟩
    · rename_i hlast
      obtain ⟨earlier, h', later, rfl, ht, hf, hlater⟩ := ih h
      refine ⟨earlier, h', later ++ [last], by simp, ht, hf, ?_⟩
      rw [List.forall_mem_append]
      exact ⟨hlater, fun x hx => List.mem_singleton.1 hx ▸ hlast⟩

/-! ## Places apart -/

@[simp] theorem not_isNewDir_staged {top : Place} {staged : List (Text × File)}
    (name : Text) : ¬ IsNewDir top staged (stagingPlace top ++ [name]) := by
  rintro ⟨e, -, s, -, h | h⟩
  · exact stagingPlace_append_ne top [name] [] (by rw [h, List.append_nil])
  · exact stagingPlace_append_ne top [name] _ h

namespace Accounts

variable {l : Layout} {top : Place} {staged : List (Text × File)}
  {before t t' : FileTree} {history : List Taken} {e : Text × File}

theorem nil (l : Layout) (top : Place) (staged : List (Text × File))
    (before : FileTree) : l.Accounts top staged before [] before where
  named _ h := absurd h List.not_mem_nil
  target _ h := absurd h List.not_mem_nil
  keepsDirs := .refl _
  gone _ h := absurd h List.not_mem_nil
  landed _ h := absurd h List.not_mem_nil
  other _ _ _ := Or.inl rfl

/-- A file that waits is as it was before the run. -/
theorem kind?_staged (h : l.Accounts top staged before history t)
    {name : Text} (hfresh : ∀ x ∈ history, x.name ≠ name) {k : Kind}
    (hk : before.kind? (stagingPlace top ++ [name]) = some k) :
    t.kind? (stagingPlace top ++ [name]) = some k := by
  obtain he | ⟨hn, -, -⟩ := h.other (stagingPlace top ++ [name])
    (fun x hx _ heq => hfresh x hx (by simpa using heq.symm))
    (fun x _ s _ _ heq => staged_ne_destinationPlace top name s heq)
  · rw [he, hk]
  · rw [hn] at hk
    exact absurd hk (by simp)

/-- **New directories of locales** are accounted for. -/
theorem gains (h : l.Accounts top staged before history t)
    (hg : t.Gains t' (IsNewDir top staged)) :
    l.Accounts top staged before history t' where
  named := h.named
  target := h.target
  keepsDirs := h.keepsDirs.trans hg.keepsDirs
  gone x hx hs := by
    obtain he | ⟨-, -, hnew⟩ := hg (stagingPlace top ++ [x.name])
    · rw [he, h.gone x hx hs]
    · exact absurd hnew (not_isNewDir_staged x.name)
  landed x hx s hname ht := by
    obtain ⟨hl, f, hf, hk⟩ := h.landed x hx s hname ht
    exact ⟨FileTree.locate_mono hg.keepsDirs hl, f, hf, hg.kind?_eq hk⟩
  other q hspent hdest := by
    obtain he | ⟨hn, hd, hnew⟩ := hg q
    · rw [he]
      exact h.other q hspent hdest
    · obtain he | ⟨-, hd', -⟩ := h.other q hspent hdest
      · exact Or.inr ⟨by rw [← he, hn], hd, hnew⟩
      · rw [hn] at hd'
        exact absurd hd' (by simp)

/-- The turn of a file that stays is accounted for by the tree as it is. -/
theorem pass (h : l.Accounts top staged before history t)
    (hname : Path.IsEntryName e.1) (hgood : ¬ l.IsMalformed e.1) :
    l.Accounts top staged before (history ++ [⟨e.1, e.2, none⟩]) t := by
  have hkept : ¬ l.IsSpent ⟨e.1, e.2, none⟩ := by
    rintro (hbad | hsome)
    · exact hgood hbad
    · exact absurd hsome (by simp)
  refine ⟨?_, ?_, h.keepsDirs, ?_, ?_, ?_⟩
  · rw [List.forall_mem_append]
    exact ⟨h.named, fun x hx => List.mem_singleton.1 hx ▸ hname⟩
  · rw [List.forall_mem_append]
    refine ⟨h.target, fun x hx m hm => ?_⟩
    rw [List.mem_singleton.1 hx] at hm
    exact absurd hm (by simp)
  · rw [List.forall_mem_append]
    refine ⟨h.gone, fun x hx hs => ?_⟩
    rw [List.mem_singleton.1 hx] at hs
    exact absurd hs hkept
  · rw [List.forall_mem_append]
    refine ⟨fun x hx s hs ht => ?_, fun x hx s hs ht => ?_⟩
    · rw [landing_concat, if_neg (by simp)]
      exact h.landed x hx s hs ht
    · rw [List.mem_singleton.1 hx] at ht
      exact absurd ht (by simp)
  · intro q hspent hdest
    rw [List.forall_mem_append] at hspent hdest
    exact h.other q hspent.1 hdest.1

/-- **The turn of a malformed name** is accounted for once the file is
gone. -/
theorem discard (h : l.Accounts top staged before history t)
    (hname : Path.IsEntryName e.1) (hbad : l.IsMalformed e.1)
    (hthere : t.kind? (stagingPlace top ++ [e.1]) = some (.file e.2))
    (hview : ∀ q, t'.kind? q
      = if q = stagingPlace top ++ [e.1] then none else t.kind? q) :
    l.Accounts top staged before (history ++ [⟨e.1, e.2, none⟩]) t' := by
  have hkeeps : t.KeepsDirs t' := by
    intro q hq
    rw [hview, if_neg, hq]
    rintro rfl
    rw [hthere] at hq
    exact absurd hq (by simp)
  refine ⟨?_, ?_, h.keepsDirs.trans hkeeps, ?_, ?_, ?_⟩
  · rw [List.forall_mem_append]
    exact ⟨h.named, fun x hx => List.mem_singleton.1 hx ▸ hname⟩
  · rw [List.forall_mem_append]
    refine ⟨h.target, fun x hx m hm => ?_⟩
    rw [List.mem_singleton.1 hx] at hm
    exact absurd hm (by simp)
  · rw [List.forall_mem_append]
    refine ⟨fun x hx hs => ?_, fun x hx _ => ?_⟩
    · rw [hview]
      split
      · rfl
      · exact h.gone x hx hs
    · rw [List.mem_singleton.1 hx, hview, if_pos rfl]
  · rw [List.forall_mem_append]
    refine ⟨fun x hx s hs ht => ?_, fun x hx s hs ht => ?_⟩
    · obtain ⟨hl, f, hf, hk⟩ := h.landed x hx s hs ht
      rw [landing_concat, if_neg (by simp)]
      refine ⟨FileTree.locate_mono hkeeps hl, f, hf, ?_⟩
      rw [hview, if_neg (staged_ne_destinationPlace top e.1 s).symm, hk]
    · rw [List.mem_singleton.1 hx] at ht
      exact absurd ht (by simp)
  · intro q hspent hdest
    rw [List.forall_mem_append] at hspent hdest
    have hne := hspent.2 _ (List.mem_singleton_self _) (Or.inl hbad)
    rw [hview, if_neg hne]
    exact h.other q hspent.1 hdest.1

/-- **The turn of a file that was moved** is accounted for once the file is at
its destination. -/
theorem move (h : l.Accounts top staged before history t)
    (hname : Path.IsEntryName e.1) {s : StagingName}
    (hs : StagingName.ofText e.1 = .ok s)
    (hthere : t.kind? (stagingPlace top ++ [e.1]) = some (.file e.2))
    (hplace : t.locate (l.destination s) = .ok (destinationPlace top s))
    (hfree : t.kind? (destinationPlace top s) ≠ some .dir)
    (hview : ∀ q, t'.kind? q
      = if q = destinationPlace top s then some (.file e.2)
        else if q = stagingPlace top ++ [e.1] then none else t.kind? q) :
    l.Accounts top staged before
      (history ++ [⟨e.1, e.2, some (l.destination s)⟩]) t' := by
  have hkeeps : t.KeepsDirs t' := by
    intro q hq
    rw [hview, if_neg, if_neg, hq]
    · rintro rfl
      rw [hthere] at hq
      exact absurd hq (by simp)
    · rintro rfl
      exact hfree hq
  have hplace' := FileTree.locate_mono hkeeps hplace
  have hat : t'.kind? (destinationPlace top s) = some (.file e.2) := by
    rw [hview, if_pos rfl]
  refine ⟨?_, ?_, h.keepsDirs.trans hkeeps, ?_, ?_, ?_⟩
  · rw [List.forall_mem_append]
    exact ⟨h.named, fun x hx => List.mem_singleton.1 hx ▸ hname⟩
  · rw [List.forall_mem_append]
    refine ⟨h.target, fun x hx m hm => ?_⟩
    obtain rfl := List.mem_singleton.1 hx
    exact ⟨s, hs, (Option.some.inj hm).symm⟩
  · rw [List.forall_mem_append]
    refine ⟨fun x hx hspent => ?_, fun x hx _ => ?_⟩
    · rw [hview, if_neg (staged_ne_destinationPlace top x.name s)]
      split
      · rfl
      · exact h.gone x hx hspent
    · rw [List.mem_singleton.1 hx, hview,
        if_neg (staged_ne_destinationPlace top e.1 s), if_pos rfl]
  · rw [List.forall_mem_append]
    refine ⟨fun x hx s' hs' ht => ?_, fun x hx s' hs' ht => ?_⟩
    · rw [landing_concat]
      have hinj : destinationPlace top s = destinationPlace top s'
          ↔ l.destination s = l.destination s' :=
        destination_inj hs hs' hname (h.named x hx)
      -- what was moved there before is overwritten
      by_cases hsame : l.destination s = l.destination s'
      · rw [if_pos (congrArg some hsame), ← hsame, ← hinj.2 hsame]
        exact ⟨hplace', e.2, rfl, hat⟩
      · obtain ⟨hl, f, hf, hk⟩ := h.landed x hx s' hs' ht
        rw [if_neg fun he => hsame (Option.some.inj he)]
        refine ⟨FileTree.locate_mono hkeeps hl, f, hf, ?_⟩
        rw [hview, if_neg fun he => hsame (hinj.1 he.symm),
          if_neg (staged_ne_destinationPlace top e.1 s').symm, hk]
    · obtain rfl := List.mem_singleton.1 hx
      obtain rfl := Except.ok.inj (hs.symm.trans hs')
      rw [landing_concat, if_pos rfl]
      exact ⟨hplace', e.2, rfl, hat⟩
  · intro q hspent hdest
    rw [List.forall_mem_append] at hspent hdest
    have hne := hspent.2 _ (List.mem_singleton_self _) (Or.inr rfl)
    have hne' := hdest.2 _ (List.mem_singleton_self _) s hs rfl
    rw [hview, if_neg hne', if_neg hne]
    exact h.other q hspent.1 hdest.1

end Accounts

end Layout

end Lexicon
