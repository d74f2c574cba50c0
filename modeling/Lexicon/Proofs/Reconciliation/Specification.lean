import Lexicon.Header.Writer
import Lexicon.Proofs.Listing.HighestVersion
import Lexicon.Proofs.Reconciliation.Findings
import Lexicon.Proofs.Volume.Removal
import Lexicon.Reconciliation.Reconcile

/-!
# What a reconciliation lists

Put together, the four sweeps find the candidates of a listing and nothing
else (`Sources.yields_sweep`), so what a reconciliation lists is the summary of
the candidates: one record for each of their locales, and that is the first of
the greatest version. The bundle is swept after the useless leftover downloads
were deleted. Deleting them takes no directory away and adds none, so a bundle
can be asked for its locales then exactly if it could be before.
-/

namespace Lexicon

namespace Bundle

variable {b : Bundle} {v : Volume}

/-- **A bundle tells its locales** if it declares them or its directory can be
asked about. -/
def IsTold (b : Bundle) (v : Volume) : Prop :=
  b.declared?.isSome ∨ ∃ answer, v.isDir b.directory = .ok answer

/-- The locales of a bundle are known if it tells them. What cannot be listed
is only reported. -/
theorem locales_eq_ok (h : b.IsTold v) :
    ∃ keys, (b.locales v).value = .ok keys := by
  unfold locales
  cases hd : b.declared? with
  | some declared => exact ⟨declared, rfl⟩
  | none =>
    obtain ⟨_ | _, ha⟩ := h.resolve_left (by rw [hd]; exact Bool.false_ne_true)
    · rw [ha]
      exact ⟨[], rfl⟩
    · rw [ha]
      cases v.list b.directory with
      | error e => exact ⟨[], rfl⟩
      | ok entries =>
        dsimp only
        rcases b.keysOf v entries with ⟨keys, - | e⟩
        · exact ⟨keys, rfl⟩
        · exact ⟨keys, rfl⟩

theorem locales_eq_error (h : ¬ b.IsTold v) :
    ∃ e, (b.locales v).value = .error e := by
  unfold locales
  cases hd : b.declared? with
  | some declared => exact absurd (Or.inl (by rw [hd]; rfl)) h
  | none =>
    cases ha : v.isDir b.directory with
    | ok answer => exact absurd (Or.inr ⟨answer, ha⟩) h
    | error e => exact ⟨e, rfl⟩

end Bundle

namespace Sources

variable {s : Sources} {v : Volume}

theorem tree_discard (v : Volume) (a : FileAddress) :
    (discard v a).tree = (v.unlink a.path).toOption.getD v.tree := by
  unfold discard FileAddress.delete
  rcases v.unlink a.path with e | t
  · rcases e with - | - | - | - | - | - | - | - | - | - | - | - | - | - <;> rfl
  · rfl

/-- **Discarding what the sweep over the leftover downloads wants deleted**
gives the cleared tree. -/
theorem afterDiscards_uselessLeftovers (s : Sources) (v : Volume) :
    afterDiscards v ((s.uselessLeftovers v).map fun e =>
      ⟨s.layout.root.child e.1, 0, e.2.content.toBytes.length⟩)
      = s.clearedTree v := by
  unfold afterDiscards clearedTree
  rw [List.foldl_map]
  congr 1
  funext t e
  exact tree_discard _ _

/-- The cleared tree has the directories that were there before, and no
others. -/
theorem keepsDirs_clearedTree (s : Sources) (v : Volume) :
    v.tree.KeepsDirs (s.clearedTree v)
      ∧ (s.clearedTree v).KeepsDirs v.tree := by
  unfold clearedTree
  suffices h : ∀ (files : List (Text × File)) (t : FileTree),
      v.tree.KeepsDirs t ∧ t.KeepsDirs v.tree →
        let t' := files.foldl (fun t e =>
          ((v.withTree t).unlink (s.layout.root.child e.1)).toOption.getD t) t
        v.tree.KeepsDirs t' ∧ t'.KeepsDirs v.tree from
    h _ _ ⟨FileTree.KeepsDirs.refl _, FileTree.KeepsDirs.refl _⟩
  intro files
  induction files with
  | nil => exact fun _ ht => ht
  | cons e files ih =>
    intro t ht
    refine ih _ ?_
    dsimp only
    cases hu : (v.withTree t).unlink (s.layout.root.child e.1) with
    | error _ => exact ht
    | ok t' =>
      obtain ⟨hkeeps, hadds⟩ := Volume.keepsDirs_of_unlink hu
      exact ⟨ht.1.trans hkeeps, hadds.trans ht.2⟩

/-- **A bundle tells its locales after the clearing** exactly if it did
before. -/
@[simp] theorem isTold_clearedTree {b : Bundle} :
    b.IsTold (v.withTree (s.clearedTree v)) ↔ b.IsTold v := by
  obtain ⟨hkeeps, hadds⟩ := keepsDirs_clearedTree s v
  refine or_congr_right ⟨fun h => ?_, Volume.isKind_eq_ok_of_keepsDirs hadds⟩
  -- the tree before the clearing has no directory that is not in the cleared
  -- one, so the same lemma leads back
  exact Volume.isKind_eq_ok_of_keepsDirs
    (v := v.withTree (s.clearedTree v)) hkeeps h

/-- **The sweep over all sources** finds the candidates, and nothing stops
it. -/
theorem yields_sweep (hr : s.readHeader = FileAddress.header?)
    (hb : ∀ b, s.bundle? = some b → b.IsTold v)
    (he : ∀ e, s.enabled? ≠ some (.error e)) :
    ∃ discarded, (s.sweep v).1.Yields (s.candidates v) discarded := by
  have hl := yields_sweepLeftovers (v := v) hr
  have htree : afterDiscards v (s.sweepLeftovers v).discarded
      = s.clearedTree v := by
    rw [hl.discarded_eq, afterDiscards_uselessLeftovers]
  have hbundle : ∀ b, s.bundle? = some b →
      ∃ keys, (b.locales (v.withTree (s.clearedTree v))).value = .ok keys :=
    fun b hs => Bundle.locales_eq_ok (isTold_clearedTree.2 (hb b hs))
  unfold sweep candidates
  dsimp only
  rw [htree]
  exact ⟨_, (((yields_sweepCache hr).append hl).append
    (yields_sweepBundle hr hbundle)).append (yields_sweepEnabled he)⟩

/-- **What is listed is the summary of the candidates**, if the bundle tells
its locales. -/
theorem value_reconcile_of_isTold (hr : s.readHeader = FileAddress.header?)
    (hb : ∀ b, s.bundle? = some b → b.IsTold v)
    (he : ∀ e, s.enabled? ≠ some (.error e)) :
    (s.reconcile v).value = Listing.ofCandidates (s.candidates v) := by
  obtain ⟨discarded, hy⟩ := yields_sweep hr hb he
  unfold reconcile
  dsimp only
  rw [hy.failure?_eq, hy.records_eq]

theorem value_reconcile (hr : s.readHeader = FileAddress.header?)
    (hb : ∀ b, s.bundle? = some b → ∃ answer, v.isDir b.directory = .ok answer)
    (he : ∀ e, s.enabled? ≠ some (.error e)) :
    (s.reconcile v).value = Listing.ofCandidates (s.candidates v) :=
  value_reconcile_of_isTold hr (fun b hs => Or.inr (hb b hs)) he

/-- **A listing holds the highest version of each locale that has a
candidate**: its locales are pairwise distinct, they are those of the
candidates, and each is listed with the first of its candidates of the greatest
version. What is denied on the volume is not shown by it and so gives no
candidate. -/
theorem reconcile_highest (s : Sources) (v : Volume)
    (hr : s.readHeader = FileAddress.header?)
    (hb : ∀ b, s.bundle? = some b → ∃ answer, v.isDir b.directory = .ok answer)
    (he : ∀ e, s.enabled? ≠ some (.error e)) :
    (s.reconcile v).value.locales.Nodup
      ∧ (∀ l, l ∈ (s.reconcile v).value.locales
          ↔ ∃ c ∈ s.candidates v, c.locale = l)
      ∧ ∀ r ∈ (s.reconcile v).value, r.IsBestOf (s.candidates v) := by
  rw [value_reconcile hr hb he]
  have h := Listing.summarizes_ofCandidates (s.candidates v)
  exact ⟨h.nodup, fun l => h.mem_locales, h.best⟩

/-- A storage with a bundle and two spellings of one enabled locale. -/
def sample : Sources where
  layout := ⟨⟨.relative, [lit "root"]⟩⟩
  bundle? := some { directory := ⟨.relative, [lit "assets"]⟩ }
  enabled? := some (.ok [lit "en_US", lit "en-us"])

/-- Its files: a bundled dictionary and a leftover download, both empty. -/
def sampleVolume : Volume where
  tree := .dir [
    (lit "assets", .dir [(lit "main_en", .file ⟨.bytes [], 0⟩)]),
    (lit "root", .dir [(lit "en___x.dict", .file ⟨.bytes [], 0⟩)])]

/-- A dictionary that has these attributes and nothing else. -/
def dictionaryOf (pairs : List (Text × Text)) : File where
  content := .bytes ((Header.bytes (Attributes.ofList pairs)
    Header.defaultFormatVersion 0).toOption.getD [])

/-- Dictionaries for the enabled locale from everywhere. In its cache directory
the one that is named for German says that it is for this locale, and the one
that is named for this locale says that it is German. A leftover download and a
bundled dictionary, whose locale is left empty, have the same version. -/
def versionsVolume : Volume where
  tree := .dir [
    (lit "assets", .dir [(lit "main_en_us",
      .file (dictionaryOf [(lit "version", lit "9"), (lit "locale", [])]))]),
    (lit "root", .dir [
      (lit "de___y.dict", .file (dictionaryOf [(lit "version", lit "2")])),
      (lit "dicts", .dir [(lit "en_US", .dir [
        (lit "main%00003ade", .file (dictionaryOf
          [(lit "version", lit "7"), (lit "locale", lit "en-us")])),
        (lit "main%00003aen_us", .file (dictionaryOf
          [(lit "locale", lit "de"), (lit "version", lit "11")]))])]),
      (lit "en_US___x.dict",
        .file (dictionaryOf [(lit "version", lit "9")]))])]

/-- The dictionary that says it is German is no candidate, and of the others for
the enabled locale the first of the greatest version is listed. -/
theorem reconcile_highest_sample :
    let listing := (sample.reconcile versionsVolume).value
    let candidates := sample.candidates versionsVolume
    candidates.map (fun c => (c.locale.toText, c.version))
        = [(lit "en_US", 7), (lit "de", 2), (lit "en_US", 9), (lit "en_US", 9),
          (lit "en_US", -1), (lit "en_US", -1)]
      ∧ listing.map (fun r => (r.locale.toText, r.version, r.filename))
        = [(lit "en_US", 9, some (lit "en_US___x.dict")),
          (lit "de", 2, some (lit "de___y.dict"))]
      ∧ listing.locales.Nodup
      ∧ (∀ l, l ∈ listing.locales ↔ ∃ c ∈ candidates, c.locale = l)
      ∧ ∀ r ∈ listing, r.IsBestOf candidates := by
  refine ⟨by decide +kernel, by decide +kernel,
    reconcile_highest sample versionsVolume rfl ?_ ?_⟩
  · intro b hb
    obtain rfl := Option.some.inj hb
    exact ⟨true, by decide +kernel⟩
  · intro e he
    exact absurd (Option.some.inj he) (by simp)

end Sources

end Lexicon
