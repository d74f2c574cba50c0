import Lexicon.Layout
import Lexicon.Proofs.Volume.Directories

/-!
# The directory of a locale

A locale has one directory in the cache, which is made when it is first asked
for. Where it is is known from the place of the storage root alone, since
escaped names are shown as they are spelled: `Layout.inCache` gives the place.
Asking for the directory adds it and the cache itself at most
(`ensureDir_cachePath`); what is in the way is only reported. The one thing
that stops it is that nothing can be told about the directory, because that is
denied or because a name or the whole path is too long for the system
(`exists_isDir_cachePath_iff`).
-/

namespace Lexicon

namespace FileName

variable {key : Text}

theorem isPassable_of_mem_escape {c : CodePoint} (h : c ∈ escape key) :
    c.isPassable = true := by
  obtain ⟨hlt, hne, -, -⟩ := of_inAlphabet (inAlphabet_of_mem_escape h)
  unfold CodePoint.isPassable CodePoint.isSurrogate
  simp [hne]
  omega

@[simp] theorem respell_escape (key : Text) :
    Utf8.respell (escape key) = escape key := by
  refine Utf8.respell_of_not_escaped fun c hc => ?_
  obtain ⟨hlt, -, -, -⟩ := of_inAlphabet (inAlphabet_of_mem_escape hc)
  unfold CodePoint.isEscapedByte
  simp
  omega

/-- **An escaped name is a name that a directory can show.** -/
theorem isEntryName_escape (hk : key ≠ []) : Path.IsEntryName (escape key) where
  ne_nil h := hk (escape_eq_nil_iff.1 h)
  ne_dot := escape_ne_dot key
  ne_dotDot := escape_ne_dotDot key
  slash_not_mem := slash_not_mem_escape key
  respell_eq := respell_escape key

end FileName

namespace Layout

variable {l : Layout} {v : Volume} {top : Place} {key : Text}

/-- The place of the cache, by the place of the storage root. -/
def cachePlace (top : Place) : Place :=
  top ++ [cacheName]

/-- The place of the directory of a locale in the cache. -/
def inCache (top : Place) (key : Text) : Place :=
  cachePlace top ++ [FileName.escape key]

/-- **The directories that a locale brings along**: the cache and its own in
the cache. -/
def IsCacheDir (top : Place) (key : Text) (place : Place) : Prop :=
  place = cachePlace top ∨ place = inCache top key

/-- **Something stands where each directory of a locale is to be**, and be it
in the way. -/
def IsProvided (t : FileTree) (top : Place) (key : Text) : Prop :=
  t.kind? (cachePlace top) ≠ none
    ∧ (t.kind? (cachePlace top) = some .dir → t.kind? (inCache top key) ≠ none)

@[simp] theorem cacheName_ne_dotDot : cacheName ≠ Path.dotDot := by decide

@[simp] theorem isTooLong_cacheName : Path.isTooLong cacheName = false := by
  decide +kernel

@[simp] theorem respell_cacheName : Utf8.respell cacheName = cacheName := by
  decide +kernel

theorem cachePath_eq (l : Layout) (hk : key ≠ []) :
    l.cachePath key
      = (l.root.child cacheName).child (FileName.escape key) :=
  Path.appendText_escape _ hk

theorem checkText_cachePath (hk : key ≠ []) (ht : l.root.checkText = .ok ()) :
    (l.cachePath key).checkText = .ok () := by
  have hname : ∀ c ∈ cacheName, c.isPassable = true :=
    List.all_eq_true.1 (show cacheName.all CodePoint.isPassable = true from rfl)
  rw [cachePath_eq l hk, Path.checkText_child, Path.checkText_child]
  exact ⟨⟨ht, hname⟩, fun c hc => FileName.isPassable_of_mem_escape hc⟩

/-- **Nothing can be told of a path that is too long.** -/
theorem isDir_of_isOverlong {p : Path} (hi : v.denied.inspect p = false)
    (ht : p.checkText = .ok ()) (ho : p.isOverlong = true) :
    v.isDir p = .error .nameTooLong := by
  have hc : p.check = .error .nameTooLong := by
    unfold Path.check Path.checkLength
    rw [ht, ho]
    rfl
  exact Volume.isKind_eq_error_iff.2
    ⟨Volume.node_eq_error_iff.2 (Or.inr ⟨hi, Or.inl hc⟩), rfl⟩

theorem isDir_of_denied {p : Path} (hi : v.denied.inspect p = true) :
    v.isDir p = .error .denied :=
  Volume.isKind_eq_error_iff.2
    ⟨Volume.node_eq_error_iff.2 (Or.inl ⟨hi, rfl⟩), rfl⟩

theorem ensureDir_of_isDir_error {p : Path} {e : FileError}
    (h : v.isDir p = .error e) (purpose : Text) :
    ensureDir v p purpose = ⟨v.tree, .error e, []⟩ := by
  unfold ensureDir
  rw [h]

/-- **A path that cannot be passed on** is no directory and never becomes
one. -/
theorem ensureDir_of_checkText_error {p : Path} {a : Text} {e : FileError}
    (hi : v.denied.inspect (p.child a) = false)
    (h : (p.child a).checkText = .error e) (purpose : Text) :
    ensureDir v (p.child a) purpose = ⟨v.tree, .error e, []⟩ := by
  have hkind : e.meansAbsent = true ∧ e.isSystem = false ∧ e ≠ .notFound := by
    obtain rfl | ⟨run, rfl⟩ := Path.checkText_eq_error h
    · exact ⟨rfl, rfl, by simp⟩
    · exact ⟨rfl, rfl, by simp⟩
  obtain ⟨habsent, hsystem, hfound⟩ := hkind
  have hcheck : (p.child a).check = .error e := by
    unfold Path.check
    rw [h]
    rfl
  have hdir : v.isDir (p.child a) = .ok false := by
    unfold Volume.isDir Volume.isKind
    rw [Volume.node_eq_error_iff.2 (Or.inr ⟨hi, Or.inl hcheck⟩)]
    exact if_pos habsent
  have hone : v.tree.makeDir (p.child a) = .error e := by
    unfold FileTree.makeDir
    rw [hcheck]
    rfl
  have hmake : v.makeDirs (p.child a) = (v.tree, .error e) := by
    have hexcuse : v.excuse (p.child a) e = .error e := by
      unfold Volume.excuse
      rw [hsystem, if_neg Bool.false_ne_true]
    rw [Volume.makeDirs_child, Volume.makeDirsBelow, Volume.child_of_reverse,
      hone]
    cases e with
    | notFound => exact absurd rfl hfound
    | _ => exact congrArg (Prod.mk v.tree) hexcuse
  unfold ensureDir
  rw [hdir, hmake]
  dsimp only
  rw [hsystem, if_neg Bool.false_ne_true]

/-- A directory that was asked for in vain is at least one that can be passed
on. -/
theorem checkText_of_ensureDir {p : Path} {a purpose : Text}
    (h : (ensureDir v (p.child a) purpose).value = .ok ()) :
    (p.child a).checkText = .ok () := by
  cases hi : v.denied.inspect (p.child a) with
  | true =>
    rw [ensureDir_of_isDir_error (isDir_of_denied hi)] at h
    exact absurd h (by simp)
  | false =>
    cases ht : (p.child a).checkText with
    | ok => rfl
    | error e =>
      rw [ensureDir_of_checkText_error hi ht] at h
      exact absurd h (by simp)

theorem locate_cache {t : FileTree} (hl : t.locate l.root = .ok top)
    (hd : t.kind? top = some .dir) :
    t.locate (l.root.child cacheName) = .ok (cachePlace top) := by
  rw [FileTree.locate_child_eq_ok_iff cacheName_ne_dotDot, respell_cacheName]
  exact ⟨top, hl, hd, isTooLong_cacheName, rfl⟩

/-- **Where the directory of a locale is found**, the cache is a directory, the
name of the locale's is not too long, and the place is the one where it is to
be. -/
theorem of_locate_cachePath {t : FileTree} {place : Place} (hk : key ≠ [])
    (hl : t.locate l.root = .ok top)
    (h : t.locate (l.cachePath key) = .ok place) :
    t.kind? (cachePlace top) = some .dir
      ∧ Path.isTooLong (FileName.escape key) = false
      ∧ place = inCache top key := by
  rw [cachePath_eq l hk,
    FileTree.locate_child_eq_ok_iff (FileName.escape_ne_dotDot key)] at h
  obtain ⟨above, ha, hd, hs, rfl⟩ := h
  rw [FileTree.locate_child_eq_ok_iff cacheName_ne_dotDot] at ha
  obtain ⟨above, ha, -, -, rfl⟩ := ha
  rw [hl] at ha
  obtain rfl := Except.ok.inj ha
  rw [respell_cacheName] at hd
  rw [FileName.respell_escape, respell_cacheName]
  exact ⟨hd, hs, rfl⟩

section

variable (hl : v.tree.locate l.root = .ok top)
  (hd : v.tree.kind? top = some .dir) (hk : key ≠ [])
  (ht : l.root.checkText = .ok ())
include hl hd hk ht

/-- **It can be told whether a locale has its directory** exactly if its path may
be inspected and is not too long, nor is its name where the cache is there to
look it up in. -/
theorem exists_isDir_cachePath_iff :
    (∃ answer, v.isDir (l.cachePath key) = .ok answer)
      ↔ v.denied.inspect (l.cachePath key) = false
        ∧ (l.cachePath key).isOverlong = false
        ∧ (v.tree.kind? (cachePlace top) = some .dir →
          Path.isTooLong (FileName.escape key) = false) := by
  have htext := checkText_cachePath (l := l) hk ht
  have hcache := locate_cache hl hd
  constructor
  · rintro ⟨answer, ha⟩
    have hi : v.denied.inspect (l.cachePath key) = false := by
      by_contra hi
      rw [isDir_of_denied (eq_true_of_ne_false hi)] at ha
      exact absurd ha (by simp)
    have ho : (l.cachePath key).isOverlong = false := by
      by_contra ho
      rw [isDir_of_isOverlong hi htext (eq_true_of_ne_false ho)] at ha
      exact absurd ha (by simp)
    refine ⟨hi, ho, fun hdir => ?_⟩
    by_contra hs
    have hc := Path.check_eq_ok_iff.2 ⟨htext, ho⟩
    rw [cachePath_eq l hk] at ha hi hc
    rw [Volume.isDir_child_of_isTooLong hi hc hcache
      (FileName.escape_ne_dotDot key) hdir (eq_true_of_ne_false hs)]
      at ha
    exact absurd ha (by simp)
  · rintro ⟨hi, ho, hs⟩
    have hc := Path.check_eq_ok_iff.2 ⟨htext, ho⟩
    rw [cachePath_eq l hk] at hi hc ⊢
    exact ⟨_, Volume.isDir_child hi hc hcache (FileName.escape_ne_dotDot key) hs⟩

/-- **Asking for the directory of a locale** goes well and adds at most the two
directories, if it can be told whether it is there; something is where the
cache is to be then, and the directory is there, unless its name is too long or
a plain file is in the way. -/
theorem ensureDir_cachePath
    (ha : ∃ answer, v.isDir (l.cachePath key) = .ok answer) (purpose : Text) :
    ∃ t log, ensureDir v (l.cachePath key) purpose = ⟨t, .ok (), log⟩
      ∧ v.tree.Gains t (IsCacheDir top key)
      ∧ t.kind? (cachePlace top) ≠ none
      ∧ (Path.isTooLong (FileName.escape key) = false →
        (∀ f, v.tree.kind? (cachePlace top) ≠ some (.file f)) →
        (∀ f, v.tree.kind? (inCache top key) ≠ some (.file f)) →
        t.kind? (inCache top key) = some .dir) := by
  obtain ⟨hi, ho, hs⟩ := (exists_isDir_cachePath_iff hl hd hk ht).1 ha
  have hc : (l.cachePath key).check = .ok () :=
    Path.check_eq_ok_iff.2 ⟨checkText_cachePath hk ht, ho⟩
  have hcache := locate_cache hl hd
  rw [cachePath_eq l hk] at hi hc ⊢
  obtain ⟨t, result, hmake, hgains, hsys, hnew, hdone⟩ :=
    Volume.makeDirs_child_child hi hc hl hd cacheName_ne_dotDot
      (FileName.escape_ne_dotDot key) isTooLong_cacheName
      (by rwa [respell_cacheName])
  rw [respell_cacheName, FileName.respell_escape] at hgains hdone
  rw [respell_cacheName] at hnew
  have hdir := Volume.isDir_child hi hc hcache (FileName.escape_ne_dotDot key) hs
  rw [FileName.respell_escape, ← inCache] at hdir
  unfold ensureDir
  by_cases hthere : v.tree.kind? (inCache top key) = some .dir
  · rw [hdir, decide_eq_true hthere]
    refine ⟨_, _, rfl, FileTree.Gains.refl _ _, ?_, fun _ _ _ => hthere⟩
    rw [FileTree.kind?_above (List.cons_ne_nil _ _) hthere]
    exact Option.some_ne_none _
  · rw [hdir, decide_eq_false hthere, hmake]
    rcases result with e | ⟨⟩
    · dsimp only
      rw [if_pos (hsys e rfl)]
      exact ⟨t, _, rfl, hgains, hnew, fun hs hf hf' => (hdone hs hf hf').1⟩
    · exact ⟨t, _, rfl, hgains, hnew, fun hs hf hf' => (hdone hs hf hf').1⟩

/-- **Asking again for the directory of a locale** changes nothing. -/
theorem ensureDir_of_isProvided
    (ha : ∃ answer, v.isDir (l.cachePath key) = .ok answer)
    (hp : IsProvided v.tree top key) (purpose : Text) :
    ∃ log, ensureDir v (l.cachePath key) purpose = ⟨v.tree, .ok (), log⟩ := by
  obtain ⟨hi, ho, hs⟩ := (exists_isDir_cachePath_iff hl hd hk ht).1 ha
  have hc : (l.cachePath key).check = .ok () :=
    Path.check_eq_ok_iff.2 ⟨checkText_cachePath hk ht, ho⟩
  have hcache := locate_cache hl hd
  have hne := FileName.escape_ne_dotDot key
  rw [cachePath_eq l hk] at hi hc ⊢
  have hdir := Volume.isDir_child hi hc hcache hne hs
  rw [FileName.respell_escape, ← inCache] at hdir
  unfold ensureDir
  rw [hdir]
  by_cases hthere : v.tree.kind? (inCache top key) = some .dir
  · rw [decide_eq_true hthere]
    exact ⟨[], rfl⟩
  rw [decide_eq_false hthere]
  dsimp only
  -- a plain file is in the way, where the cache is to be or in the cache
  suffices hmake : ∃ e, e.isSystem = true
      ∧ v.makeDirs ((l.root.child cacheName).child (FileName.escape key))
        = (v.tree, .error e) by
    obtain ⟨e, hsys, hmake⟩ := hmake
    rw [hmake]
    dsimp only
    rw [if_pos hsys]
    exact ⟨_, rfl⟩
  rw [Volume.makeDirs_child]
  obtain ⟨_ | f, hk⟩ := Option.ne_none_iff_exists'.1 hp.1
  · refine ⟨.alreadyExists, rfl, ?_⟩
    have hthere' : v.tree.kind? (cachePlace top
        ++ [Utf8.respell (FileName.escape key)]) ≠ none := by
      rw [FileName.respell_escape]
      exact hp.2 hk
    rw [Volume.makeDirsBelow_of_there 984 hi hc hcache hk hne (hs hk) hthere',
      FileName.respell_escape, ← inCache, decide_eq_false hthere,
      if_neg Bool.false_ne_true]
  · refine ⟨.notDirectory, rfl, ?_⟩
    exact Volume.makeDirsBelow_of_blocked hi hc hl cacheName_ne_dotDot hne
      isTooLong_cacheName 984 (by rw [respell_cacheName]; exact hk)

end

/-- **Asking for an entry of a directory** makes it a directory, unless a plain
file is in the way. -/
theorem ensureDir_child {p : Path} {name : Text} {above : Place}
    (hi : v.denied.inspect = fun _ => false) (hc : (p.child name).check = .ok ())
    (hl : v.tree.locate p = .ok above) (hd : v.tree.kind? above = some .dir)
    (hn : Path.IsEntryName name) (hs : Path.isTooLong name = false)
    (hf : ∀ f, v.tree.kind? (above ++ [name]) ≠ some (.file f))
    (purpose : Text) :
    ∃ t, ensureDir v (p.child name) purpose = ⟨t, .ok (), []⟩
      ∧ v.tree.Gains t (· = above ++ [name])
      ∧ t.kind? (above ++ [name]) = some .dir := by
  have hdir := Volume.isDir_child (by rw [hi]) hc hl hn.ne_dotDot fun _ => hs
  rw [hn.respell_eq] at hdir
  unfold ensureDir
  by_cases hthere : v.tree.kind? (above ++ [name]) = some .dir
  · rw [hdir, decide_eq_true hthere]
    exact ⟨_, rfl, FileTree.Gains.refl _ _, hthere⟩
  · obtain ⟨t, result, hmake, hgains, -, hdone⟩ :=
      Volume.makeDirsBelow_child 984 (fun _ => by rw [hi]) hc hl hd hn.ne_dotDot
        hs
    rw [hn.respell_eq] at hgains hdone
    obtain ⟨hnew, rfl⟩ := hdone hf
    rw [hdir, decide_eq_false hthere, Volume.makeDirs_child, hmake]
    exact ⟨t, rfl, hgains, hnew⟩

end Layout

end Lexicon
