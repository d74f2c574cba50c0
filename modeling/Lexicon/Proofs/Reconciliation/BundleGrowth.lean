import Lexicon.Proofs.Reconciliation.Specification

/-!
# A listing with and without its bundle

A bundle adds candidates and takes none away, and more candidates never list a
locale with a lower version (`Listing.isBelow_ofCandidates`). So adding a
bundle to the sources of a listing hides nothing, as long as the sweep over it
comes to its end. It does not where the bundle cannot tell its locales, and
then the whole listing is empty. These are all cases
(`Sources.reconcile_isBelow_withBundle_iff`).
-/

namespace Lexicon

namespace Listing

/-- **A listing is below another** if that has each of its locales, with no
lower version. -/
def IsBelow (old new : Listing) : Prop :=
  ∀ r ∈ old, ∃ r' ∈ new, r'.locale = r.locale ∧ r.version ≤ r'.version

/-- **More candidates give no lower listing.** -/
theorem isBelow_ofCandidates {candidates more : List Record}
    (h : candidates ⊆ more) :
    (ofCandidates candidates).IsBelow (ofCandidates more) := by
  intro r hr
  have hmem := ((summarizes_ofCandidates candidates).best r hr).mem
  exact (summarizes_ofCandidates more).exists_ge (h hmem)

@[simp] theorem isBelow_nil_iff {listing : Listing} :
    listing.IsBelow [] ↔ listing = [] := by
  unfold IsBelow
  rw [List.eq_nil_iff_forall_not_mem]
  exact forall₂_congr fun _ _ => by simp

end Listing

namespace Sources

variable {s : Sources} {v : Volume}

/-- **The same sources with another bundle**, or without one. -/
def withBundle (s : Sources) (bundle? : Option Bundle) : Sources :=
  { s with bundle? }

/-- The candidates without a bundle are candidates with any. -/
theorem candidates_withBundle_none (s : Sources) (v : Volume)
    (b? : Option Bundle) :
    (s.withBundle none).candidates v ⊆ (s.withBundle b?).candidates v := by
  intro c hc
  have hnone : (s.withBundle none).bundled
      (v.withTree ((s.withBundle none).clearedTree v)) = [] := rfl
  unfold candidates at hc ⊢
  rw [hnone, List.append_nil, List.mem_append] at hc
  rw [List.mem_append, List.mem_append]
  exact hc.imp_left Or.inl

/-- **What can stop a sweep** over all sources: the bundle, or else the enabled
locales. -/
theorem failure?_sweep (hr : s.readHeader = FileAddress.header?) :
    (s.sweep v).1.failure?
      = (s.sweepBundle (v.withTree (s.clearedTree v))).failure?.or
        s.sweepEnabled.failure? := by
  have hl := yields_sweepLeftovers (v := v) hr
  unfold sweep
  dsimp only
  rw [hl.discarded_eq, afterDiscards_uselessLeftovers, Sweep.failure?_append,
    Sweep.failure?_append, ((yields_sweepCache hr).append hl).failure?_eq,
    Option.none_or]

theorem value_reconcile_of_failure {e : FileError}
    (h : (s.sweep v).1.failure? = some e) : (s.reconcile v).value = [] := by
  unfold reconcile
  dsimp only
  rw [h]

/-- **A bundle that does not tell its locales empties the listing.** -/
theorem reconcile_of_not_isTold (hr : s.readHeader = FileAddress.header?)
    {b : Bundle} (hs : s.bundle? = some b) (hb : ¬ b.IsTold v) :
    (s.reconcile v).value = [] := by
  obtain ⟨e, he⟩ :=
    Bundle.locales_eq_error (mt (isTold_clearedTree (s := s)).1 hb)
  have hbundle : (s.sweepBundle (v.withTree (s.clearedTree v))).failure?
      = some e := by
    unfold sweepBundle
    simp only [hs, he]
  refine value_reconcile_of_failure (e := e) ?_
  rw [failure?_sweep hr, hbundle, Option.some_or]

/-- **Enabled locales that could not be told empty the listing.** -/
theorem reconcile_of_enabled_error (hr : s.readHeader = FileAddress.header?)
    {e : FileError} (he : s.enabled? = some (.error e)) :
    (s.reconcile v).value = [] := by
  have henabled : s.sweepEnabled.failure? = some e := by
    unfold sweepEnabled
    rw [he]
  obtain ⟨e', he'⟩ : ∃ e', (s.sweep v).1.failure? = some e' := by
    rw [failure?_sweep hr, henabled, Option.or_some]
    exact ⟨_, rfl⟩
  exact value_reconcile_of_failure he'

/-- **Adding a bundle hides nothing and lowers no version exactly if the bundle
tells its locales**, or nothing was listed anyway. Whatever is denied on the
volume, a bundle whose directory can be asked about adds to the listing only;
one that declares no locales and whose directory cannot be asked about takes
everything out of it. -/
theorem reconcile_isBelow_withBundle_iff (s : Sources) (v : Volume) (b : Bundle)
    (hr : s.readHeader = FileAddress.header?)
    (he : ∀ e, s.enabled? ≠ some (.error e)) :
    ((s.withBundle none).reconcile v).value.IsBelow
        ((s.withBundle (some b)).reconcile v).value
      ↔ b.IsTold v ∨ ((s.withBundle none).reconcile v).value = [] := by
  have hwithout : ((s.withBundle none).reconcile v).value
      = Listing.ofCandidates ((s.withBundle none).candidates v) :=
    value_reconcile_of_isTold hr
      (fun _ hb => absurd hb (by simp [withBundle])) he
  by_cases hb : b.IsTold v
  · have hwith : ((s.withBundle (some b)).reconcile v).value
        = Listing.ofCandidates ((s.withBundle (some b)).candidates v) :=
      value_reconcile_of_isTold hr
        (fun _ hb' => Option.some.inj hb' ▸ hb) he
    rw [hwith]
    refine iff_of_true ?_ (Or.inl hb)
    rw [hwithout]
    exact Listing.isBelow_ofCandidates (candidates_withBundle_none s v _)
  · have hwith : ((s.withBundle (some b)).reconcile v).value = [] :=
      reconcile_of_not_isTold hr rfl hb
    rw [hwith, Listing.isBelow_nil_iff, or_iff_right hb]

/-- The bundle of the sample. -/
def sampleBundle : Bundle where
  directory := ⟨.relative, [lit "assets"]⟩

/-- The sample volume where nobody may ask what the bundle's directory is. -/
def secretVolume : Volume where
  tree := sampleVolume.tree
  denied := { inspect := fun p => p = sampleBundle.directory }

/-- The bundle of the sample only adds to its listing. Where its directory may
not be asked about, it takes the enabled locale out of the listing. -/
theorem reconcile_isBelow_withBundle_iff_sample :
    ((sample.withBundle none).reconcile sampleVolume).value.IsBelow
        ((sample.withBundle (some sampleBundle)).reconcile sampleVolume).value
      ∧ ¬ ((sample.withBundle none).reconcile secretVolume).value.IsBelow
        ((sample.withBundle (some sampleBundle)).reconcile
          secretVolume).value := by
  have he : ∀ e, sample.enabled? ≠ some (.error e) :=
    fun e he => absurd (Option.some.inj he) (by simp)
  rw [reconcile_isBelow_withBundle_iff sample sampleVolume sampleBundle rfl he,
    reconcile_isBelow_withBundle_iff sample secretVolume sampleBundle rfl he]
  have hd : sampleVolume.isDir sampleBundle.directory = .ok true := by
    decide +kernel
  refine ⟨Or.inl (Or.inr ⟨true, hd⟩), not_or.2 ⟨?_, by decide +kernel⟩⟩
  have hs : secretVolume.isDir sampleBundle.directory = .error .denied := by
    decide +kernel
  rintro (h | ⟨answer, h⟩)
  · exact absurd h (by decide)
  · rw [hs] at h
    exact absurd h (by simp)

end Sources

end Lexicon
