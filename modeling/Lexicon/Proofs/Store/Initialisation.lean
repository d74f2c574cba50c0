import Lexicon.Proofs.Store.Files

/-!
# Stores that were just initialised

Initialising a store on a free path leaves one that is ready and has no rows
(`isReady_initialise`): the leftovers of an older store beside the path were
removed, or the initialisation was refused. It is only required that the path
still leads to the store once that is there, since a path may go below the new
file and up again.
-/

namespace Lexicon.Store

variable {t t' : FileTree} {p : Path} {place : Place}

/-- What a path spells out is the same in every tree in which it can be. -/
theorem spell?_unique {start : Place} {names way a b : List Text}
    (h : spell? t start way names = some a)
    (h' : spell? t' start way names = some b) : a = b := by
  induction names generalizing way with
  | nil => exact Option.some.inj (h.symm.trans h')
  | cons name rest ih =>
    unfold spell? at h h'
    by_cases hd : name = Path.dotDot
    · rw [if_pos hd] at h h'
      exact ih h h'
    · rw [if_neg hd] at h h'
      split at h
      · split at h'
        · exact ih h h'
        · exact absurd h' (by simp)
      · exact absurd h (by simp)

/-- **A path leads to the same store** before and after directories were
added, as long as it leads to one. -/
theorem locate?_unique (hd : t.KeepsDirs t') {place' : Place}
    (h : locate? t p = some place) (h' : locate? t' p = some place') :
    place' = place := by
  unfold locate? at h h'
  obtain ⟨way, hway, h⟩ := Option.bind_eq_some_iff.1 h
  obtain ⟨way', hway', h'⟩ := Option.bind_eq_some_iff.1 h'
  obtain rfl := spell?_unique hway hway'
  split at h
  · exact absurd h (by simp)
  rename_i hok
  rw [if_neg hok] at h'
  cases hw : t.walk p.start way with
  | error e =>
    rw [hw] at h
    exact absurd h (by simp [Except.toOption])
  | ok found =>
    rw [FileTree.walk_mono hd (fun _ he => absurd he (by simp)) hw] at h'
    rw [hw] at h
    exact Option.some.inj (h'.symm.trans h)

/-- **A path is free for a store** if nothing stands where it leads. -/
def IsFreeAt (t : FileTree) (p : Path) : Prop :=
  ∀ place ∈ locate? t p, t.kind? place = none

instance (t : FileTree) (p : Path) : Decidable (IsFreeAt t p) :=
  inferInstanceAs (Decidable (∀ place ∈ locate? t p, t.kind? place = none))

/-- **A tree lost companions of a store** and is otherwise the same. -/
def LosesCompanions (t t' : FileTree) (place : Place) : Prop :=
  ∀ q, t'.kind? q = t.kind? q
    ∨ (t'.kind? q = none ∧ t.kind? q ≠ some .dir
      ∧ ∃ c : Companion, q = c.place place)

theorem LosesCompanions.refl (t : FileTree) (place : Place) :
    LosesCompanions t t place :=
  fun _ => Or.inl rfl

/-- Removing one companion more. -/
theorem LosesCompanions.remove (h : LosesCompanions t t' place)
    (c : Companion) : LosesCompanions t (c.remove t' place) place := by
  intro q
  rw [kind?_remove_companion]
  split
  · rename_i hq
    obtain ⟨rfl, hdir⟩ := hq
    obtain he | ⟨-, hne, -⟩ := h (c.place place)
    · exact Or.inr ⟨rfl, he ▸ hdir, c, rfl⟩
    · exact Or.inr ⟨rfl, hne, c, rfl⟩
  · exact h q

namespace LosesCompanions

theorem keepsDirs (h : LosesCompanions t t' place) : t.KeepsDirs t' := by
  intro q hq
  obtain he | ⟨-, hne, -⟩ := h q
  · rw [he, hq]
  · exact absurd hq hne

theorem kind?_self (h : LosesCompanions t t' place) (hp : place ≠ []) :
    t'.kind? place = t.kind? place := by
  obtain he | ⟨-, -, c, hc⟩ := h place
  · exact he
  · exact absurd hc.symm (place_companion_ne c hp)

theorem found?_eq_none (h : LosesCompanions t t' place) {c : Companion}
    (hc : c.found? t place = none) : c.found? t' place = none := by
  rw [found?_eq_none_iff] at hc ⊢
  intro k hk
  obtain he | ⟨hn, -, -⟩ := h (c.place place)
  · exact hc k (he ▸ hk)
  · rw [hn] at hk
    exact absurd hk (by simp)

end LosesCompanions

/-- A companion that was removed is not found, unless a directory stands in its
place. -/
theorem found?_remove {c : Companion}
    (hd : t.kind? (c.place place) ≠ some .dir) :
    c.found? (c.remove t place) place = none := by
  refine found?_eq_none_iff.2 fun k hk => ?_
  rw [kind?_remove_companion, if_pos ⟨rfl, hd⟩] at hk
  exact absurd hk (by simp)

theorem kind?_ne_dir_of_found? {c : Companion} {f : File}
    (h : c.found? t place = some (.file f)) :
    t.kind? (c.place place) ≠ some .dir := by
  intro hd
  obtain ⟨es, hes⟩ := FileTree.kind?_eq_dir_iff.1 hd
  unfold Companion.found? at h
  rw [hes] at h
  exact absurd h (by simp [Option.filter])

/-- **Settling a blank store** takes away what was left beside it, the log at
least, and leaves the file as it is. -/
theorem settle_of_isBlank {f f' : File} {recording : Recording}
    (hb : isBlank f.content = true)
    (h : settle t place f = (t', .ok (f', recording))) :
    f' = f ∧ recording = .byJournal ∧ LosesCompanions t t' place
      ∧ Companion.log.found? t' place = none := by
  have hjournal : ∃ t₁, settleJournal t place f = (t₁, .ok f)
      ∧ LosesCompanions t t₁ place := by
    unfold settleJournal
    rcases Companion.journal.found? t place with - | (g | es)
    · exact ⟨t, rfl, .refl t place⟩
    · rw [hb]
      exact ⟨_, rfl, (LosesCompanions.refl t place).remove _⟩
    · rw [hb]
      exact ⟨t, rfl, .refl t place⟩
  obtain ⟨t₁, hj, hloses⟩ := hjournal
  unfold settle at h
  rw [hj] at h
  dsimp only at h
  unfold settleLog at h
  rw [hb] at h
  rcases hl : Companion.log.found? t₁ place with - | (g | es) <;> rw [hl] at h
  · cases h
    exact ⟨rfl, rfl, hloses, hl⟩
  · cases h
    exact ⟨rfl, rfl, hloses.remove _, found?_remove (kind?_ne_dir_of_found? hl)⟩
  · exact absurd h (by simp [Except.map])

/-- What is recorded by a journal has room for one. -/
theorem record_eq_ok (h : record t place .byJournal = .ok t') :
    Path.isTooLong (Companion.journal.name place) = false
      ∧ t.kind? (Companion.journal.place place) ≠ some .dir
      ∧ t' = Companion.journal.remove t place := by
  unfold record at h
  dsimp only at h
  by_cases hbad : (Path.isTooLong (Companion.journal.name place)
      || (t.lookup (Companion.journal.place place)).any FileTree.isDir) = true
  · rw [if_pos hbad] at h
    exact absurd h (by simp)
  · rw [if_neg hbad] at h
    rw [Bool.or_eq_true, not_or, Bool.not_eq_true] at hbad
    refine ⟨hbad.1, fun hd => hbad.2 ?_, (Except.ok.inj h).symm⟩
    obtain ⟨es, hes⟩ := FileTree.kind?_eq_dir_iff.1 hd
    rw [hes]
    rfl

/-- A file that holds nothing, as which a store begins. -/
def blankFile : File := ⟨.bytes [], 0⟩

/-- Opening a store on a free path makes a blank file. -/
theorem openFile_of_isFreeAt (hfree : IsFreeAt t p) {o : Opened}
    (h : openFile t p = .ok o) :
    ∃ place, p.checkText = .ok () ∧ locate? t p = some place
      ∧ o = ⟨t.put place (.file blankFile), place, blankFile⟩ := by
  unfold openFile at h
  rcases hc : p.checkText with e | ⟨⟨⟩⟩ <;> rw [hc] at h
  · exact absurd h (by simp)
  rcases hl : locate? t p with - | place <;> rw [hl] at h
  · exact absurd h (by simp)
  dsimp only at h
  rw [FileTree.kind?_eq_none_iff.1 (hfree place hl)] at h
  exact ⟨place, rfl, rfl, (Except.ok.inj h).symm⟩

/-- **What initialising a store on a free path does**, if it is not refused: it
makes a blank file, takes leftovers away and writes the table. -/
theorem exists_of_initialise (hfree : IsFreeAt t p)
    (hok : (initialise t p).value = .ok ()) :
    ∃ place t₁, p.checkText = .ok () ∧ locate? t p = some place
      ∧ LosesCompanions (t.put place (.file blankFile)) t₁ place
      ∧ Companion.log.found? t₁ place = none
      ∧ Path.isTooLong (Companion.journal.name place) = false
      ∧ t₁.kind? (Companion.journal.place place) ≠ some .dir
      ∧ (initialise t p).tree = (Companion.journal.remove t₁ place).put place
          (.file ⟨.store [], 0⟩) := by
  have hchange : (change t p draftTable).2 = .ok () := hok
  show ∃ place t₁, _ ∧ _ ∧ _ ∧ _ ∧ _ ∧ _ ∧ (change t p draftTable).1 = _
  unfold change look at hchange ⊢
  rcases ho : openFile t p with e | o <;> rw [ho] at hchange
  · exact absurd hchange (by simp)
  obtain ⟨place, hc, hl, rfl⟩ := openFile_of_isFreeAt hfree ho
  dsimp only at hchange ⊢
  rcases hs : settle (t.put place (.file blankFile)) place blankFile with
    ⟨t₁, e | ⟨f, recording⟩⟩ <;> rw [hs] at hchange
  · exact absurd hchange (by simp)
  obtain ⟨rfl, rfl, hloses, hlog⟩ := settle_of_isBlank rfl hs
  have hdraft : draftTable blankFile.content = ⟨true, .ok []⟩ := rfl
  dsimp only at hchange ⊢
  unfold complete at hchange ⊢
  rw [hdraft] at hchange ⊢
  dsimp only at hchange ⊢
  rw [if_pos rfl] at hchange ⊢
  rcases hr : record t₁ place .byJournal with e | t₂ <;> rw [hr] at hchange
  · exact absurd hchange (by simp)
  obtain ⟨hfits, hdir, rfl⟩ := record_eq_ok hr
  exact ⟨place, t₁, hc, hl, hloses, hlog, hfits, hdir, rfl⟩

/-- **A store that was initialised on a free path** is ready and has no rows,
if the path still leads to it. -/
theorem isReady_initialise (hfree : IsFreeAt t p)
    (hok : (initialise t p).value = .ok ())
    (hleads : (locate? (initialise t p).tree p).isSome) :
    IsReady (initialise t p).tree p [] := by
  obtain ⟨place, t₁, hc, hl, hloses, hlog, hfits, hdir, htree⟩ :=
    exists_of_initialise hfree hok
  rw [htree] at hleads ⊢
  obtain ⟨outer, name, rfl, houter⟩ := exists_entry_of_locate? hl
  have hne : outer ++ [name] ≠ [] :=
    List.append_ne_nil_of_right_ne_nil _ (List.cons_ne_nil _ _)
  have hnone := hfree _ hl
  -- the view after each of the three changes
  have hput : ∀ q, (t.put (outer ++ [name]) (.file blankFile)).kind? q
      = if q = outer ++ [name] then some (.file blankFile) else t.kind? q := by
    obtain ⟨es, hes⟩ := FileTree.kind?_eq_dir_iff.1 houter
    exact FileTree.kind?_put_file hes (by rw [hnone]; simp) blankFile
  have hlost : LosesCompanions (t.put (outer ++ [name]) (.file blankFile))
      (Companion.journal.remove t₁ (outer ++ [name])) (outer ++ [name]) :=
    hloses.remove _
  have hself : (Companion.journal.remove t₁ (outer ++ [name])).kind?
      (outer ++ [name]) = some (.file blankFile) := by
    rw [hlost.kind?_self hne, hput, if_pos rfl]
  have hfinal := kind?_put_over hself ⟨.store [], 0⟩
  -- a companion that is not found before the table is written is not after it
  have hfound : ∀ c : Companion,
      c.found? (Companion.journal.remove t₁ (outer ++ [name]))
        (outer ++ [name]) = none →
      c.found? ((Companion.journal.remove t₁ (outer ++ [name])).put
        (outer ++ [name]) (.file ⟨.store [], 0⟩)) (outer ++ [name]) = none := by
    intro c hc
    refine found?_eq_none_iff.2 fun k hk => ?_
    rw [hfinal, if_neg (place_companion_ne c hne)] at hk
    exact found?_eq_none_iff.1 hc k hk
  refine ⟨outer ++ [name], ⟨.store [], 0⟩, ⟨hc, ?_, ?_, ?_, ?_, hfits⟩, rfl⟩
  · obtain ⟨place', hleads⟩ := Option.isSome_iff_exists.1 hleads
    rw [hleads, locate?_unique (fun q hq => ?_) hl hleads]
    have hq' : q ≠ outer ++ [name] := by
      rintro rfl
      rw [hnone] at hq
      exact absurd hq (by simp)
    rw [hfinal, if_neg hq']
    exact hlost.keepsDirs q (by rw [hput, if_neg hq', hq])
  · rw [hfinal, if_pos rfl]
  · exact hfound _ (found?_remove hdir)
  · exact hfound _ (((LosesCompanions.refl t₁ _).remove .journal).found?_eq_none
      hlog)

/-- A path at which records were written leads to a store. -/
theorem isSome_locate?_of_upsertAt {records : List Record} {n : Nat}
    (hn : (upsertAt t p records).value = .ok n) : (locate? t p).isSome := by
  cases hl : locate? t p with
  | some place => rfl
  | none =>
    have hopen : ∃ e, openFile t p = .error e := by
      unfold openFile
      rw [hl]
      cases p.checkText with
      | error e => exact ⟨_, rfl⟩
      | ok u => exact ⟨_, rfl⟩
    obtain ⟨e, he⟩ := hopen
    unfold upsertAt change look at hn
    rw [he] at hn
    cases records <;> exact absurd hn (by simp [Except.map])

end Lexicon.Store
