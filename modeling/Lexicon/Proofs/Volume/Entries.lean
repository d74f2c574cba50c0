import Mathlib.Data.List.Sort
import Lexicon.Proofs.Volume.Directories

/-!
# What stands in a directory

The entries that a volume shows in a directory, by the view of its tree. What
is listed stands there (`exists_kind?_of_mem_namesIn`), and where nothing is
denied a plain file or a directory whose path the system takes is listed
(`mem_filesIn`, `mem_dirsIn`).
-/

namespace Lexicon.Volume

variable {v : Volume} {p : Path} {name : Text} {f : File} {place : Place}

/-- **A plain file is shown** where one stands that may be asked about. -/
theorem file?_eq_some_iff_kind? :
    v.file? p = some f
      ↔ v.denied.inspect p = false ∧ p.check = .ok ()
        ∧ ∃ place, v.tree.locate p = .ok place
          ∧ v.tree.kind? place = some (.file f) := by
  rw [file?_eq_some_iff, node_eq_ok_iff]
  refine and_congr_right fun _ => and_congr_right fun _ =>
    exists_congr fun place => and_congr_right fun _ => ?_
  exact FileTree.kind?_eq_file_iff.symm

/-- **A directory is shown** where one stands that may be asked about. -/
theorem shows_isDir_iff_kind? :
    v.shows FileTree.isDir p = true
      ↔ v.denied.inspect p = false ∧ p.check = .ok ()
        ∧ ∃ place, v.tree.locate p = .ok place
          ∧ v.tree.kind? place = some .dir := by
  rw [shows_eq_true_iff]
  constructor
  · rintro ⟨t, hn, ht⟩
    obtain ⟨hi, hc, place, hl, hk⟩ := node_eq_ok_iff.1 hn
    cases t with
    | file f => exact absurd ht Bool.false_ne_true
    | dir es => exact ⟨hi, hc, place, hl, FileTree.kind?_eq_dir_iff.2 ⟨es, hk⟩⟩
  · rintro ⟨hi, hc, place, hl, hk⟩
    obtain ⟨es, hes⟩ := FileTree.kind?_eq_dir_iff.1 hk
    exact ⟨.dir es, node_eq_ok_iff.2 ⟨hi, hc, place, hl, hes⟩, rfl⟩

/-- The plain files of a directory are the names that show one. -/
theorem mem_filesIn_iff :
    (name, f) ∈ v.filesIn p
      ↔ name ∈ v.namesIn p ∧ v.file? (p.child name) = some f := by
  unfold filesIn
  rw [List.mem_filterMap]
  constructor
  · rintro ⟨n, hn, hf⟩
    obtain ⟨g, hg, heq⟩ := Option.map_eq_some_iff.1 hf
    obtain ⟨rfl, rfl⟩ := Prod.mk.inj heq
    exact ⟨hn, hg⟩
  · rintro ⟨hn, hf⟩
    exact ⟨name, hn, by rw [hf]; rfl⟩

/-- **The names in a directory** are those at which something stands, if the
directory may be inspected and listed. -/
theorem mem_namesIn_iff :
    name ∈ v.namesIn p
      ↔ v.denied.list p = false ∧ v.denied.inspect p = false
        ∧ p.check = .ok () ∧ ∃ place, v.tree.locate p = .ok place
          ∧ v.tree.kind? (place ++ [name]) ≠ none := by
  constructor
  · intro h
    unfold namesIn at h
    split at h
    · exact absurd h List.not_mem_nil
    · rename_i hlist
      split at h
      · rename_i t hn
        obtain ⟨hi, hc, place, hl, hk⟩ := node_eq_ok_iff.1 hn
        cases t with
        | file g => exact absurd h List.not_mem_nil
        | dir es =>
          exact ⟨Bool.eq_false_iff.2 hlist, hi, hc, place, hl,
            Option.isSome_iff_ne_none.1 ((FileTree.mem_names_iff hk).1 h)⟩
      · exact absurd h List.not_mem_nil
  · rintro ⟨hlist, hi, hc, place, hl, hthere⟩
    obtain ⟨k, hk⟩ := Option.ne_none_iff_exists'.1 hthere
    obtain ⟨es, hes⟩ := FileTree.kind?_eq_dir_iff.1
      (FileTree.kind?_above (List.cons_ne_nil _ _) hk)
    unfold namesIn
    rw [if_neg (by rw [hlist]; exact Bool.false_ne_true),
      node_eq_ok_iff.2 ⟨hi, hc, place, hl, hes⟩]
    exact (FileTree.mem_names_iff hes).2 (Option.isSome_iff_ne_none.2 hthere)

/-- **Where something is listed** a directory is shown that may be listed. -/
theorem node_of_mem_namesIn (h : name ∈ v.namesIn p) :
    v.denied.list p = false ∧ ∃ entries, v.node p = .ok (.dir entries) := by
  obtain ⟨hlist, hi, hc, place, hl, hthere⟩ := mem_namesIn_iff.1 h
  obtain ⟨k, hk⟩ := Option.ne_none_iff_exists'.1 hthere
  obtain ⟨entries, hes⟩ := FileTree.kind?_eq_dir_iff.1
    (FileTree.kind?_above (List.cons_ne_nil _ _) hk)
  exact ⟨hlist, entries, node_eq_ok_iff.2 ⟨hi, hc, place, hl, hes⟩⟩

theorem isDir_of_mem_namesIn (h : name ∈ v.namesIn p) : v.isDir p = .ok true := by
  obtain ⟨-, entries, hn⟩ := node_of_mem_namesIn h
  exact isKind_eq_ok_true_iff.2 (shows_eq_true_iff.2 ⟨_, hn, rfl⟩)

/-- The names in a directory come in order, each once. -/
theorem pairwise_namesIn (v : Volume) (p : Path) :
    (v.namesIn p).Pairwise (· < ·) := by
  unfold namesIn
  split
  · exact List.Pairwise.nil
  · split
    · rename_i t _
      cases t with
      | file g => exact List.Pairwise.nil
      | dir es => exact Text.pairwise_sortNames _
    · exact List.Pairwise.nil

/-- **What the names of a directory give** on two volumes is the same, if one
lists no more than the other and what only the other lists gives nothing. -/
theorem filterMap_namesIn_of_subset {α : Type} {u : Volume}
    {g g' : Text → Option α} (hsubset : u.namesIn p ⊆ v.namesIn p)
    (hkept : ∀ name ∈ u.namesIn p, g' name = g name)
    (hlost : ∀ name ∈ v.namesIn p, name ∉ u.namesIn p → g name = none) :
    (u.namesIn p).filterMap g' = (v.namesIn p).filterMap g := by
  have hfilter : u.namesIn p
      = (v.namesIn p).filter fun name => name ∈ u.namesIn p := by
    refine (pairwise_namesIn u p).eq_of_mem_iff
      ((pairwise_namesIn v p).filter _) fun name => ?_
    rw [List.mem_filter, decide_eq_true_eq]
    exact ⟨fun hn => ⟨hsubset hn, hn⟩, And.right⟩
  rw [List.filterMap_congr hkept]
  conv_lhs => rw [hfilter]
  rw [List.filterMap_filter]
  refine List.filterMap_congr fun name hname => ?_
  by_cases hn : name ∈ u.namesIn p
  · rw [if_pos (decide_eq_true hn)]
  · rw [if_neg (by simpa using hn), hlost name hname hn]

/-- **What is listed stands there.** -/
theorem exists_kind?_of_mem_namesIn (hl : v.tree.locate p = .ok place)
    (h : name ∈ v.namesIn p) :
    ∃ k, v.tree.kind? (place ++ [name]) = some k := by
  obtain ⟨-, -, -, place', hl', hthere⟩ := mem_namesIn_iff.1 h
  obtain rfl := Except.ok.inj (hl.symm.trans hl')
  exact Option.ne_none_iff_exists'.1 hthere

/-- **What is shown at an entry is listed**, if the directory may be inspected
and listed. -/
theorem mem_namesIn_iff_of_node {t : FileTree} (hn : Path.IsEntryName name)
    (h : v.node (p.child name) = .ok t) :
    name ∈ v.namesIn p
      ↔ v.denied.list p = false ∧ v.denied.inspect p = false := by
  obtain ⟨-, hc, there, hl, hthere⟩ := node_eq_ok_iff.1 h
  obtain ⟨place, ha, -, -, rfl⟩ :=
    (FileTree.locate_child_eq_ok_iff hn.ne_dotDot).1 hl
  rw [hn.respell_eq] at hthere
  rw [mem_namesIn_iff]
  refine and_congr_right fun _ => and_iff_left
    ⟨Path.check_of_check_child hc, place, ha, ?_⟩
  rw [FileTree.kind?, hthere]
  exact Option.some_ne_none _

theorem kind?_of_file? (hl : v.tree.locate p = .ok place)
    (hn : name ≠ Path.dotDot) (h : v.file? (p.child name) = some f) :
    v.tree.kind? (place ++ [Utf8.respell name]) = some (.file f) := by
  obtain ⟨-, -, place', hl', hk⟩ := node_eq_ok_iff.1 (file?_eq_some_iff.1 h)
  obtain ⟨above, ha, -, -, rfl⟩ := (FileTree.locate_child_eq_ok_iff hn).1 hl'
  obtain rfl := Except.ok.inj (hl.symm.trans ha)
  exact FileTree.kind?_eq_file_iff.2 hk

/-- **What stands there is listed**, unless that is denied. -/
theorem mem_namesIn (hd : v.denied = {}) (hl : v.tree.locate p = .ok place)
    (hp : p.check = .ok ()) {k : Kind}
    (h : v.tree.kind? (place ++ [name]) = some k) : name ∈ v.namesIn p := by
  rw [mem_namesIn_iff, hd]
  exact ⟨rfl, rfl, hp, place, hl, by rw [h]; exact Option.some_ne_none k⟩

section

variable (hd : v.denied = {}) (hl : v.tree.locate p = .ok place)
  (hc : (p.child name).check = .ok ()) (hn : Path.IsEntryName name)
  (hs : Path.isTooLong name = false)
include hd hl hc hn hs

theorem node_child {t : FileTree}
    (h : v.tree.lookup (place ++ [name]) = some t) :
    v.node (p.child name) = .ok t := by
  obtain ⟨es, hes⟩ := FileTree.lookup_above (List.cons_ne_nil _ _) h
  rw [node_eq_ok_iff, hd]
  refine ⟨rfl, hc, place ++ [name], ?_, h⟩
  rw [FileTree.locate_child_eq_ok_iff hn.ne_dotDot, hn.respell_eq]
  exact ⟨place, hl, FileTree.kind?_eq_dir_iff.2 ⟨es, hes⟩, hs, rfl⟩

theorem mem_filesIn (hp : p.check = .ok ())
    (h : v.tree.kind? (place ++ [name]) = some (.file f)) :
    (name, f) ∈ v.filesIn p := by
  refine mem_filesIn_iff.2 ⟨mem_namesIn hd hl hp h, ?_⟩
  rw [file?_eq_some_iff]
  exact node_child hd hl hc hn hs (FileTree.kind?_eq_file_iff.1 h)

theorem mem_dirsIn (hp : p.check = .ok ())
    (h : v.tree.kind? (place ++ [name]) = some .dir) :
    name ∈ v.dirsIn p := by
  refine List.mem_filter.2 ⟨mem_namesIn hd hl hp h, ?_⟩
  obtain ⟨es, hes⟩ := FileTree.kind?_eq_dir_iff.1 h
  rw [shows_eq_true_iff]
  exact ⟨_, node_child hd hl hc hn hs hes, rfl⟩

end

end Lexicon.Volume
