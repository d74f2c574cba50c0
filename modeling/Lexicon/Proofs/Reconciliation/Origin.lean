import Lexicon.Proofs.Layout.Listings
import Lexicon.Proofs.Listing.HighestVersion
import Lexicon.Proofs.Reconciliation.Findings
import Lexicon.Reconciliation.Reconcile

/-!
# Where the identifiers of a listing come from

Whatever is denied on a volume and however headers are read, every record that
a sweep finds has an identifier, and that is the one of its own locale unless
the record is that of a file in the cache, which is identified by its name. Nor
is a record of no version below that of a locale without a dictionary, or of a
size below zero. `Sources.Origin` says so of a record, each sweep has a lemma
for it, and a listing holds nothing that a sweep did not find
(`Sources.origin_of_mem_reconcile`). Of all these records only those that stand
for enabled locales tell no version
(`Sources.versioned_or_enabled_of_mem_reconcile`).
-/

namespace Lexicon

theorem Header.version_nonneg_of_ne {h : Header} (hv : h.version ≠ noVersion) :
    0 ≤ h.version :=
  not_not.1 fun hneg => hv ((version_eq_noVersion_iff h).2 hneg)

/-! ## The records of sweeps -/

namespace Sweep

variable {r : Record}

theorem mem_records_append {s t : Sweep} (h : r ∈ (s ++ t).records) :
    r ∈ s.records ∨ r ∈ t.records := by
  have h : r ∈ (Sweep.append s t).records := h
  unfold Sweep.append at h
  split at h
  · exact Or.inl h
  · exact List.mem_append.1 h

theorem mem_records_ofLog_append {log : Log} {s : Sweep}
    (h : r ∈ (ofLog log ++ s).records) : r ∈ s.records :=
  (mem_records_append h).resolve_left List.not_mem_nil

theorem exists_of_mem_records_concat {sweeps : List Sweep}
    (h : r ∈ (concat sweeps).records) : ∃ s ∈ sweeps, r ∈ s.records := by
  induction sweeps with
  | nil => exact absurd h List.not_mem_nil
  | cons s rest ih =>
    obtain hs | hr := mem_records_append (t := concat rest) h
    · exact ⟨s, List.mem_cons_self, hs⟩
    · obtain ⟨t, ht, hr⟩ := ih hr
      exact ⟨t, List.mem_cons_of_mem _ ht, hr⟩

theorem exists_of_mem_records_ofFindings {ι : Type} {xs : List ι}
    {finding : ι → Finding}
    (h : r ∈ (ofFindings (xs.map finding)).records) :
    ∃ x ∈ xs, r ∈ (ofFinding (finding x)).records := by
  unfold ofFindings at h
  rw [List.map_map] at h
  obtain ⟨s, hs, hr⟩ := exists_of_mem_records_concat h
  obtain ⟨x, hx, rfl⟩ := List.mem_map.1 hs
  exact ⟨x, hx, hr⟩

@[simp] theorem records_excuse (s : Sweep) (report : FileError → LogLine) :
    (s.excuse report).records = s.records := by
  unfold excuse
  split <;> rfl

end Sweep

namespace Sources

variable {s : Sources} {v : Volume} {r : Record}

/-! ## Origins -/

/-- **A header is read from a plain file** that tells a version and belongs to
a locale. -/
def HasHeaderFor (s : Sources) (v : Volume) (p : Path) (f : File)
    (named l : Locale) : Prop :=
  ∃ h, (s.readHeader v ⟨p, 0, f.content.toBytes.length⟩).value = .ok (some h)
    ∧ 0 ≤ h.version ∧ h.IsFor named l

/-- **A dictionary lies in a directory of the cache** that is named for its
locale: `id` is its identifier and `l` its locale, by the header that is read
from it. -/
def IsInCache (s : Sources) (v : Volume) (id : Text) (l : Locale) : Prop :=
  ∃ dir ∈ v.dirsIn s.layout.cacheRoot,
    ∃ e ∈ v.filesIn (s.layout.cacheRoot.child dir), ∃ key mainKey,
      FileName.unescape dir = .ok key ∧ FileName.unescape e.1 = .ok id
        ∧ WordListId.mainKey? id = some mainKey ∧ l = Locale.ofText key
        ∧ s.HasHeaderFor v ((s.layout.cacheRoot.child dir).child e.1) e.2
          (Locale.ofText mainKey) l

/-- **A file of the cache stands behind a record**: the record is filed under
the locale that the name of its directory tells, and identified by the name of
the file. -/
def IsFiledAs (s : Sources) (v : Volume) (r : Record) : Prop :=
  ∃ id, r.id = some id ∧ s.IsInCache v id r.locale

/-- **What is so of every record that is found.** -/
structure Origin (s : Sources) (v : Volume) (r : Record) : Prop where
  /-- It is identified by its locale or by a file of the cache. -/
  identified :
    r.id = some (WordListId.ofMain r.locale) ∨ s.IsFiledAs v r
  /-- Its version is at least that of a locale without a dictionary. -/
  version_ge : Header.noVersion ≤ r.version
  /-- Its size is natural. -/
  filesize_nonneg : 0 ≤ r.filesize

theorem Origin.id_isSome (h : s.Origin v r) : r.id.isSome := by
  obtain hid | ⟨_, hid, -⟩ := h.identified <;> rw [hid] <;> rfl

/-! ## Records -/

/-- A plain file's record has the identifier that it was made with, and the
locale that it belongs to by the header that was read. -/
theorem of_fileRecord {p : Path} {id : Text} {locale : Locale}
    (h : (s.fileRecord v (FileAddress.ofFile v p).value id locale).value
      = .ok (.found r)) :
    r.id = some id ∧ 0 ≤ r.version ∧ 0 ≤ r.filesize
      ∧ ∀ f, v.file? p = some f → s.HasHeaderFor v p f locale r.locale := by
  unfold fileRecord at h
  rcases ha : (FileAddress.ofFile v p).value with - | a
  · rw [ha] at h
    exact absurd h (by simp)
  rw [ha] at h
  dsimp only at h
  rcases hh : (s.readHeader v a).value with e | - | header <;> rw [hh] at h
  · exact absurd h (by simp)
  · exact absurd h (by simp)
  · dsimp only at h
    by_cases hv : header.version = Header.noVersion
    · rw [if_pos hv] at h
      exact absurd h (by simp)
    · rw [if_neg hv] at h
      obtain ⟨modified, -, h⟩ := map_eq_ok.1 h
      cases h
      have hversion := Header.version_nonneg_of_ne hv
      refine ⟨rfl, hversion, FileAddress.length_nonneg ha, fun f hf => ?_⟩
      rw [FileAddress.value_ofFile hf] at ha
      obtain rfl := Option.some.inj ha
      exact ⟨header, hh, hversion, contentLocale_eq_iff.1 rfl⟩

/-- A leftover download that is kept belongs to the locale of its name, and
tells its version. -/
theorem of_judge {a : FileAddress} {locale : Locale} (ha : 0 ≤ a.length)
    (h : (s.judge v a locale).value = .ok (.keep r)) :
    s.Origin v r ∧ 0 ≤ r.version := by
  unfold judge at h
  dsimp only at h
  rcases hh : (s.readHeader v a).value with e | header? <;> rw [hh] at h
  · exact absurd h (by simp)
  dsimp only at h
  split at h
  · exact absurd h (by simp)
  · rename_i hv
    obtain ⟨modified, -, h⟩ := map_eq_ok.1 h
    cases h
    cases header? with
    | none => exact absurd rfl hv
    | some header =>
      have hversion := Header.version_nonneg_of_ne (h := header) hv
      exact ⟨⟨Or.inl rfl, Int.le_trans (by decide) hversion, ha⟩, hversion⟩

/-- What a finding gives was found, and belongs where it is filed. -/
theorem of_findingOf {log : Log} {what : Text} {filed : Locale}
    {result : Logged (Except FileError RecordResult)}
    (h : r ∈ (Sweep.ofFinding (findingOf log what filed result)).records) :
    result.value = .ok (.found r) ∧ r.locale = filed := by
  unfold findingOf at h
  rcases hv : result.value with e | (record | reason | reason) <;> rw [hv] at h
  · exact absurd h List.not_mem_nil
  · dsimp only at h
    split at h
    · rename_i hl
      obtain rfl := List.mem_singleton.1 h
      exact ⟨rfl, hl⟩
    · exact absurd h List.not_mem_nil
  · exact absurd h List.not_mem_nil
  · exact absurd h List.not_mem_nil

/-- A file of the cache is identified by its name, and filed under the locale
of its directory. -/
theorem of_cachedFinding {filed : Locale} {p : Path}
    (h : r ∈ (Sweep.ofFinding (s.cachedFinding v filed p)).records) :
    ∃ id mainKey, FileName.unescape p.name = .ok id
      ∧ WordListId.mainKey? id = some mainKey ∧ r.locale = filed
      ∧ r.id = some id ∧ 0 ≤ r.version ∧ 0 ≤ r.filesize
      ∧ ∀ f, v.file? p = some f →
        s.HasHeaderFor v p f (Locale.ofText mainKey) r.locale := by
  unfold cachedFinding at h
  cases hid : FileName.unescape p.name with
  | error e =>
    rw [hid] at h
    exact absurd h List.not_mem_nil
  | ok id =>
    rw [hid] at h
    dsimp only at h
    have hmain : WordListId.mainKey? id = _ := mainKey?_eq
    cases hw : WordListId.ofText? id with
    | none =>
      rw [hw] at h
      exact absurd h List.not_mem_nil
    | some wordList =>
      rw [hw] at h hmain
      dsimp only at h
      by_cases hc : wordList.category? = some .main
      · rw [if_pos hc] at h
        rw [Option.filter_some_pos (by simpa using hc)] at hmain
        obtain ⟨hfound, hlocale⟩ := of_findingOf h
        exact ⟨id, wordList.localeKey, rfl, hmain, hlocale,
          of_fileRecord hfound⟩
      · rw [if_neg hc] at h
        exact absurd h List.not_mem_nil

/-! ## Sweeps -/

/-- **A record of the cache** is filed as its file and directory tell, and tells
its version. -/
theorem origin_of_mem_sweepCache (h : r ∈ (s.sweepCache v).records) :
    s.Origin v r ∧ 0 ≤ r.version := by
  obtain ⟨_, hs, h⟩ :=
    Sweep.exists_of_mem_records_concat (Sweep.mem_records_ofLog_append h)
  obtain ⟨p, hp, rfl⟩ := List.mem_map.1 hs
  unfold Layout.cacheDirs at hp
  rw [Layout.value_listDirs] at hp
  obtain ⟨dir, hdir, rfl⟩ := List.mem_map.1 hp
  unfold sweepCacheDir at h
  rw [Path.name_child] at h
  cases hkey : FileName.unescape dir with
  | error e =>
    rw [hkey] at h
    exact absurd h List.not_mem_nil
  | ok key =>
    rw [hkey] at h
    dsimp only at h
    rw [Sweep.records_excuse] at h
    obtain ⟨file, hfile, h⟩ := Sweep.exists_of_mem_records_ofFindings
      (Sweep.mem_records_ofLog_append h)
    rw [Layout.value_listFiles] at hfile
    obtain ⟨e, he, rfl⟩ := List.mem_map.1 hfile
    obtain ⟨id, mainKey, hid, hmain, hlocale, hrid, hversion, hsize, hheader⟩ :=
      of_cachedFinding h
    rw [Path.name_child] at hid
    have hfiled : s.IsFiledAs v r :=
      ⟨id, hrid, dir, hdir, e, he, key, mainKey, hkey, hid, hmain, hlocale,
        hheader e.2 (Volume.file?_of_mem_filesIn he)⟩
    exact ⟨⟨Or.inr hfiled, Int.le_trans (by decide) hversion, hsize⟩, hversion⟩

/-- **A record of a leftover download** is identified by its locale, and tells
its version. -/
theorem origin_of_mem_sweepLeftovers (h : r ∈ (s.sweepLeftovers v).records) :
    s.Origin v r ∧ 0 ≤ r.version := by
  obtain ⟨p, -, h⟩ := Sweep.exists_of_mem_records_ofFindings
    (Sweep.mem_records_ofLog_append h)
  unfold leftoverFinding at h
  rcases hc : Text.cut? Layout.separator p.name with - | ⟨front, rest⟩ <;>
    rw [hc] at h
  · exact absurd h List.not_mem_nil
  dsimp only at h
  cases hkey : FileName.unescape front with
  | error e =>
    rw [hkey] at h
    exact absurd h List.not_mem_nil
  | ok key =>
    rw [hkey] at h
    dsimp only at h
    cases ha : (FileAddress.ofFile v p).value with
    | none =>
      rw [ha] at h
      exact absurd h List.not_mem_nil
    | some a =>
      rw [ha] at h
      dsimp only at h
      rcases hj : (s.judge v a (Locale.ofText key)).value with
        e | (record | -) <;> rw [hj] at h
      · exact absurd h List.not_mem_nil
      · obtain rfl := List.mem_singleton.1 h
        exact of_judge (FileAddress.length_nonneg ha) hj
      · exact absurd h List.not_mem_nil

/-- **A record of the bundle** is identified by the locale it is found for, and
tells its version. -/
theorem origin_of_mem_sweepBundle (v' : Volume)
    (h : r ∈ (s.sweepBundle v').records) : s.Origin v r ∧ 0 ≤ r.version := by
  unfold sweepBundle at h
  cases hb : s.bundle? with
  | none =>
    rw [hb] at h
    exact absurd h List.not_mem_nil
  | some b =>
    rw [hb] at h
    dsimp only at h
    cases hl : (b.locales v').value with
    | error e =>
      rw [hl] at h
      exact absurd h List.not_mem_nil
    | ok keys =>
      rw [hl] at h
      obtain ⟨key, -, h⟩ := Sweep.exists_of_mem_records_ofFindings
        (Sweep.mem_records_ofLog_append h)
      unfold bundledFinding at h
      dsimp only at h
      rcases hp : b.find? v' (Locale.ofText key) with e | - | p <;> rw [hp] at h
      · exact absurd h List.not_mem_nil
      · exact absurd h List.not_mem_nil
      · obtain ⟨hfound, hlocale⟩ := of_findingOf h
        obtain ⟨hrid, hversion, hsize, -⟩ := of_fileRecord hfound
        exact ⟨⟨Or.inl (by rw [hlocale]; exact hrid),
          Int.le_trans (by decide) hversion, hsize⟩, hversion⟩

/-- **A record of an enabled locale** is the one that stands for it. -/
theorem mem_enabled_of_mem_sweepEnabled (h : r ∈ s.sweepEnabled.records) :
    r ∈ s.enabled := by
  unfold sweepEnabled at h
  unfold enabled
  rcases he : s.enabled? with - | (e | keys) <;> rw [he] at h
  · exact absurd h List.not_mem_nil
  · exact absurd h List.not_mem_nil
  · exact h

/-- **A record of an enabled locale** is identified by that. -/
theorem origin_of_mem_enabled (h : r ∈ s.enabled) : s.Origin v r := by
  obtain ⟨key, -, rfl⟩ := List.mem_map.1 h
  exact ⟨Or.inl rfl, Int.le_refl _, Int.le_refl _⟩

/-- **Every record of a listing has one of these origins**, and only those that
stand for enabled locales tell no version. -/
theorem versioned_or_enabled_of_mem_reconcile (h : r ∈ (s.reconcile v).value) :
    s.Origin v r ∧ (0 ≤ r.version ∨ r ∈ s.enabled) := by
  unfold reconcile at h
  dsimp only at h
  have hsweep : r ∈ (s.sweep v).1.records := by
    split at h
    · exact absurd h List.not_mem_nil
    · exact ((Listing.summarizes_ofCandidates _).best r h).mem
  obtain hsweep | henabled := Sweep.mem_records_append hsweep
  · refine And.imp_right Or.inl ?_
    obtain hsweep | hbundle := Sweep.mem_records_append hsweep
    · obtain hcache | hleftovers := Sweep.mem_records_append hsweep
      · exact origin_of_mem_sweepCache hcache
      · exact origin_of_mem_sweepLeftovers hleftovers
    · exact origin_of_mem_sweepBundle _ hbundle
  · have hmem := mem_enabled_of_mem_sweepEnabled henabled
    exact ⟨origin_of_mem_enabled hmem, Or.inr hmem⟩

theorem origin_of_mem_reconcile (h : r ∈ (s.reconcile v).value) :
    s.Origin v r :=
  (versioned_or_enabled_of_mem_reconcile h).1

/-- No locale is listed twice, whatever the sources are. -/
theorem nodup_locales_reconcile (s : Sources) (v : Volume) :
    (s.reconcile v).value.locales.Nodup := by
  unfold reconcile
  dsimp only
  split
  · exact List.nodup_nil
  · exact (Listing.summarizes_ofCandidates _).nodup

end Sources

end Lexicon
