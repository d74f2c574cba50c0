import Mathlib.Data.List.Basic
import Lexicon.Proofs.FileTree.Directories
import Lexicon.Proofs.Text.Utf8.Respelling

/-!
# Paths without double dots

A double dot leads to the directory above, and a path that is spelled out takes
back the component before it. In a tree without links the two are the same
wherever the path leads at all (`FileTree.locate_spelledOut`). It matters that
no component holds a slash: the root is a place of its own, above which there
is nothing.
-/

namespace Lexicon

namespace Path

variable {way : List Text} {name part : Text}

/-- A way that goes on with a component; a double dot takes the last one
back. -/
def goOn (way : List Text) (name : Text) : List Text :=
  if name = dotDot then way.dropLast else way ++ [name]

theorem parts_spelledOut (p : Path) :
    p.spelledOut.parts = p.parts.foldl goOn [] := rfl

theorem mem_of_mem_goOn (h : part ∈ goOn way name) :
    part ∈ way ∨ (part = name ∧ name ≠ dotDot) := by
  unfold goOn at h
  split at h
  · exact Or.inl (List.dropLast_subset way h)
  · rename_i hname
    exact (List.mem_append.1 h).imp_right fun h =>
      ⟨List.mem_singleton.1 h, hname⟩

end Path

namespace FileTree

variable {t : FileTree} {p : Path} {here place : Place} {way : List Text}

@[simp] theorem above_start (p : Path) : above p.start = p.start := by
  unfold Path.start
  split <;> rfl

/-- **A way without double dots leads above where it led** if its last component
is taken back. -/
theorem walk_dropLast (hdd : Path.dotDot ∉ way)
    (hs : ∀ part ∈ way, Path.slash ∉ part)
    (h : t.walk p.start way = .ok here) :
    t.walk p.start way.dropLast = .ok (above here) := by
  obtain rfl | ⟨outer, last, rfl⟩ := List.eq_nil_or_concat' way
  · obtain rfl : p.start = here := Except.ok.inj h
    rw [above_start]
    rfl
  · rw [walk_append] at h
    obtain ⟨mid, hmid, hlast⟩ := bind_eq_ok.1 h
    have hname : last ≠ Path.dotDot := fun he => hdd (by simp [he])
    obtain ⟨-, -, rfl⟩ := (walk_singleton_eq_ok_iff hname).1 hlast
    -- the root is no entry, for the name of one holds no slash
    have hroot : mid ++ [Utf8.respell last] ≠ [[Path.slash]] := by
      intro he
      have hshown : Utf8.respell last = [Path.slash] := by
        have hlast := congrArg List.getLast? he
        rw [List.getLast?_append, List.getLast?_singleton] at hlast
        exact Option.some.inj hlast
      have hslash := Utf8.eq_of_respell_eq
        (List.forall_mem_singleton.2 (by decide)) hshown
      exact hs last (by simp) (by simp [hslash])
    rw [List.dropLast_concat, above, if_neg hroot, List.dropLast_concat]
    exact hmid

/-- **One component more** leads on from where the way led, spelled out or
not. -/
theorem walk_goOn {name : Text} {rest : List Text} (hdd : Path.dotDot ∉ way)
    (hs : ∀ part ∈ way, Path.slash ∉ part)
    (hway : t.walk p.start way = .ok here)
    (h : t.walk here (name :: rest) = .ok place) :
    ∃ next, t.walk p.start (Path.goOn way name) = .ok next
      ∧ t.walk next rest = .ok place := by
  unfold walk at h
  cases hc : t.checkDir here with
  | error e =>
    rw [hc] at h
    exact absurd h (by simp)
  | ok u =>
    rw [hc] at h
    dsimp only at h
    by_cases hname : name = Path.dotDot
    · rw [if_pos hname] at h
      rw [Path.goOn, if_pos hname]
      exact ⟨above here, walk_dropLast hdd hs hway, h⟩
    · rw [if_neg hname] at h
      rw [Path.goOn, if_neg hname, walk_append, hway]
      by_cases hlong : Path.isTooLong name = true
      · rw [if_pos hlong] at h
        exact absurd h (by simp)
      · rw [if_neg hlong] at h
        exact ⟨_, (walk_singleton_eq_ok_iff hname).2
          ⟨checkDir_eq_ok_iff.1 hc, Bool.eq_false_iff.2 hlong, rfl⟩, h⟩

/-- **A path leads where it leads spelled out**, if it leads anywhere. -/
theorem locate_spelledOut (hs : ∀ part ∈ p.parts, Path.slash ∉ part)
    (h : t.locate p = .ok place) : t.locate p.spelledOut = .ok place := by
  have hway : ∀ (names way : List Text) {here : Place}, Path.dotDot ∉ way →
      (∀ part ∈ way, Path.slash ∉ part) →
      (∀ part ∈ names, Path.slash ∉ part) →
      t.walk p.start way = .ok here → t.walk here names = .ok place →
      t.walk p.start (names.foldl Path.goOn way) = .ok place := by
    intro names
    induction names with
    | nil =>
      intro way here _ _ _ hway hrest
      obtain rfl : here = place := Except.ok.inj hrest
      exact hway
    | cons name rest ih =>
      intro way here hdd hs hnames hway hrest
      obtain ⟨hname, hnames⟩ := List.forall_mem_cons.1 hnames
      obtain ⟨next, hnext, hrest⟩ := walk_goOn hdd hs hway hrest
      refine ih (Path.goOn way name) (fun hm => ?_) (fun part hm => ?_) hnames
        hnext hrest
      · obtain hm | ⟨he, hne⟩ := Path.mem_of_mem_goOn hm
        · exact hdd hm
        · exact hne he.symm
      · obtain hm | ⟨rfl, -⟩ := Path.mem_of_mem_goOn hm
        · exact hs part hm
        · exact hname
  exact hway p.parts [] List.not_mem_nil
    (fun part hp => absurd hp List.not_mem_nil) hs rfl h

end FileTree

end Lexicon
