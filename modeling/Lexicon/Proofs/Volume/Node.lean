import Lexicon.FileTree.Kind
import Lexicon.Proofs.Outcome
import Lexicon.Volume

/-!
# What a volume shows at a path

`Volume.node` answers for a path after several steps, each of which can be
refused. `node_eq_ok_iff` and `node_eq_error_iff` say when it answers and what
it refuses; everything else that reads a volume is told by what it shows.
`Volume.shows` is the answer without the reason of a refusal, and
`Volume.namesIn` what a directory lists.
-/

namespace Lexicon.Volume

/-- **A path shows a tree** exactly if it may be inspected, reaches the system
and leads to the tree. -/
theorem node_eq_ok_iff {v : Volume} {p : Path} {t : FileTree} :
    v.node p = .ok t
      ↔ v.denied.inspect p = false ∧ p.check = .ok ()
        ∧ ∃ place, v.tree.locate p = .ok place
          ∧ v.tree.lookup place = some t := by
  unfold node
  cases v.denied.inspect p with
  | true => simp [bind, Except.bind, throw, throwThe, MonadExceptOf.throw]
  | false =>
    simp only [Bool.false_eq_true, if_false, true_and, bind_eq_ok]
    constructor
    · rintro ⟨⟨⟩, hc, place, hl, h⟩
      refine ⟨hc, place, hl, ?_⟩
      cases hk : v.tree.lookup place with
      | none =>
        rw [hk] at h
        simp [throw, throwThe, MonadExceptOf.throw] at h
      | some s =>
        rw [hk] at h
        exact congrArg some (Except.ok.inj h)
    · rintro ⟨hc, place, hl, h⟩
      refine ⟨(), hc, place, hl, ?_⟩
      rw [h]
      rfl

/-- **A path is refused** where inspecting it is denied, it does not reach the
system, it leads nowhere, or nothing stands where it leads. -/
theorem node_eq_error_iff {v : Volume} {p : Path} {e : FileError} :
    v.node p = .error e
      ↔ (v.denied.inspect p = true ∧ e = .denied)
        ∨ (v.denied.inspect p = false
          ∧ (p.check = .error e
            ∨ (p.check = .ok () ∧ (v.tree.locate p = .error e
              ∨ (e = .notFound ∧ ∃ place, v.tree.locate p = .ok place
                ∧ v.tree.lookup place = none))))) := by
  unfold node
  cases v.denied.inspect p with
  | true =>
    simp [bind, Except.bind, throw, throwThe, MonadExceptOf.throw, eq_comm]
  | false =>
    simp only [Bool.false_eq_true, if_false, false_and, false_or, true_and,
      bind_eq_error]
    refine or_congr_right ?_
    constructor
    · rintro ⟨⟨⟩, hc, hl | ⟨place, hl, h⟩⟩
      · exact ⟨hc, Or.inl hl⟩
      · refine ⟨hc, Or.inr ?_⟩
        cases hk : v.tree.lookup place with
        | none =>
          rw [hk] at h
          exact ⟨(Except.error.inj h).symm, place, hl, hk⟩
        | some s =>
          rw [hk] at h
          simp [pure, Except.pure] at h
    · rintro ⟨hc, hl | ⟨rfl, place, hl, hk⟩⟩
      · exact ⟨(), hc, Or.inl hl⟩
      · refine ⟨(), hc, Or.inr ⟨place, hl, ?_⟩⟩
        rw [hk]
        rfl

/-- **Whether a volume shows a tree of a kind at a path.** -/
def shows (v : Volume) (kind : FileTree → Bool) (p : Path) : Bool :=
  match v.node p with
  | .ok t => kind t
  | .error _ => false

/-- The plain file that a volume shows at a path. -/
def file? (v : Volume) (p : Path) : Option File :=
  match v.node p with
  | .ok (.file f) => some f
  | _ => none

/-- The names in the directory at a path, in order; none where no directory is
shown or it must not be listed. -/
def namesIn (v : Volume) (p : Path) : List Text :=
  if v.denied.list p then []
  else
    match v.node p with
    | .ok t => t.names
    | .error _ => []

/-- **The plain files of a directory**, by name. -/
def filesIn (v : Volume) (p : Path) : List (Text × File) :=
  (v.namesIn p).filterMap fun name =>
    (v.file? (p.child name)).map fun f => (name, f)

/-- **The directories in a directory**, by name. -/
def dirsIn (v : Volume) (p : Path) : List Text :=
  (v.namesIn p).filter fun name => v.shows FileTree.isDir (p.child name)

theorem file?_eq_some_iff {v : Volume} {p : Path} {f : File} :
    v.file? p = some f ↔ v.node p = .ok (.file f) := by
  unfold file?
  split
  · rename_i g h
    rw [h, Option.some.injEq, Except.ok.injEq, FileTree.file.injEq]
  · rename_i h
    exact iff_of_false (by simp) fun hn => h f hn

theorem file?_of_mem_filesIn {v : Volume} {p : Path} {e : Text × File}
    (h : e ∈ v.filesIn p) : v.file? (p.child e.1) = some e.2 := by
  obtain ⟨name, -, hn⟩ := List.mem_filterMap.1 h
  obtain ⟨f, hf, rfl⟩ := Option.map_eq_some_iff.1 hn
  exact hf

theorem shows_eq_true_iff {v : Volume} {kind : FileTree → Bool} {p : Path} :
    v.shows kind p = true ↔ ∃ t, v.node p = .ok t ∧ kind t = true := by
  unfold shows
  cases v.node p <;> simp

@[simp] theorem shows_isFile (v : Volume) (p : Path) :
    v.shows FileTree.isFile p = (v.file? p).isSome := by
  unfold shows file?
  rcases v.node p with e | (f | es) <;> rfl

@[simp] theorem isKind_eq_ok_true_iff {v : Volume} {kind : FileTree → Bool}
    {p : Path} : v.isKind kind p = .ok true ↔ v.shows kind p = true := by
  unfold isKind shows
  cases v.node p with
  | ok t => simp
  | error e =>
    dsimp only
    split <;> simp

theorem shows_eq_false {v : Volume} {kind : FileTree → Bool} {p : Path}
    (h : v.isKind kind p ≠ .ok true) : v.shows kind p = false :=
  Bool.eq_false_iff.2 fun hs => h (isKind_eq_ok_true_iff.2 hs)

/-- Asking for a kind fails only where the path is refused for more than
leading nowhere. -/
theorem isKind_eq_error_iff {v : Volume} {kind : FileTree → Bool} {p : Path}
    {e : FileError} :
    v.isKind kind p = .error e
      ↔ v.node p = .error e ∧ e.meansAbsent = false := by
  unfold isKind
  cases v.node p with
  | ok t => simp
  | error e' =>
    dsimp only
    split
    · rename_i h
      refine iff_of_false (by simp) ?_
      rintro ⟨he, hf⟩
      obtain rfl := Except.error.inj he
      rw [h] at hf
      exact absurd hf (by decide)
    · rename_i h
      constructor
      · intro he
        obtain rfl := Except.error.inj he
        exact ⟨rfl, by simpa using h⟩
      · rintro ⟨he, -⟩
        rw [Except.error.inj he]

/-- A directory is listed by the names in it. -/
theorem list_of_node {v : Volume} {p : Path} {t : FileTree}
    (hn : v.node p = .ok t) (hd : t.isDir = true) :
    v.list p
      = if v.denied.list p then .error .denied
        else .ok ((v.namesIn p).map p.child) := by
  obtain ⟨-, hc, place, hl, hk⟩ := node_eq_ok_iff.1 hn
  have hdir : v.tree.checkDir place = .ok () := by
    unfold FileTree.checkDir
    rw [hk]
    cases t with
    | file f => exact absurd hd Bool.false_ne_true
    | dir es => rfl
  unfold list namesIn
  split
  · rfl
  · rw [hn, hc, hl]
    show (do
      v.tree.checkDir place
      pure ((((v.tree.lookup place).map FileTree.names).getD []).map
        p.child)) = _
    rw [hdir, hk]
    rfl

theorem open?_of_file? {v : Volume} {p : Path} {f : File}
    (h : v.file? p = some f) : v.open? p = .ok f := by
  obtain ⟨-, hc, place, hl, hk⟩ := node_eq_ok_iff.1 (file?_eq_some_iff.1 h)
  unfold open?
  rw [hc, hl]
  dsimp only [Bind.bind, Except.bind]
  rw [hk]
  rfl

end Lexicon.Volume
