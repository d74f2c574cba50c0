import Lexicon.Proofs.FileName.Separators
import Lexicon.Proofs.Layout.CacheDirectory
import Lexicon.Proofs.Layout.Listings
import Lexicon.Proofs.Volume.Entries
import Lexicon.Reconciliation.Reconcile

/-!
# What is read from the name of a leftover download

The name of a leftover download is made of the escaped locale key, the
separator, an escaped token and the extension. Whatever key and token are, the
name is one that a directory can show, and the file of that name is listed
among the leftover downloads wherever it is shown
(`Layout.leftoverFile_mem_iff`).

A sweep cuts the name at its first separator, which need not be the one that
was put: the key may hold one itself, and a key that ends with underscores makes
one begin sooner. The cut is still made between code points of the key, never
inside an escape, because escaping moves no separator
(`Layout.exists_cut?_leftoverName`). So what is read is always the part of the
key that comes before a separator in the key and the one put behind it, and it
is the key itself exactly if the two cannot be mistaken
(`Layout.leftoverFile_recognised`).
-/

namespace Lexicon

namespace Layout

variable {l : Layout} {v : Volume} {key token : Text}

/-! ## The name -/

theorem leftoverName_eq (key token : Text) :
    leftoverName key token
      = FileName.escape (key ++ separator)
        ++ (FileName.escape token ++ extension) := by
  rw [leftoverName, FileName.escape_append, FileName.escape_separator,
    List.append_assoc]

/-- What stands in a leftover name is ASCII and no slash. -/
theorem of_mem_leftoverName {c : CodePoint} (h : c ∈ leftoverName key token) :
    c.val < 0x80 ∧ c ≠ Path.slash := by
  have hescape : ∀ t, c ∈ FileName.escape t → c.val < 0x80 ∧ c ≠ Path.slash := by
    intro t ht
    obtain ⟨hlt, -, -, hslash⟩ := FileName.of_inAlphabet
      (FileName.inAlphabet_of_mem_escape ht)
    exact ⟨hlt, hslash⟩
  have hextension :
      extension.all (fun c => c.val < 0x80 ∧ c ≠ Path.slash) = true := rfl
  rw [leftoverName_eq, List.mem_append, List.mem_append] at h
  obtain h | h | h := h
  · exact hescape _ h
  · exact hescape _ h
  · exact of_decide_eq_true (List.all_eq_true.1 hextension c h)

theorem two_lt_length_leftoverName (key token : Text) :
    2 < (leftoverName key token).length := by
  have hlength : extension.length = 5 := rfl
  rw [leftoverName, List.length_append, hlength]
  omega

/-- **A leftover name is a name that a directory can show.** -/
theorem isEntryName_leftoverName (key token : Text) :
    Path.IsEntryName (leftoverName key token) := by
  have hlength := two_lt_length_leftoverName key token
  constructor
  case ne_nil | ne_dot | ne_dotDot =>
    intro h
    rw [h] at hlength
    exact absurd hlength (by decide)
  case slash_not_mem => exact fun h => (of_mem_leftoverName h).2 rfl
  case respell_eq =>
    refine Utf8.respell_of_not_escaped fun c hc => ?_
    obtain ⟨hlt, -⟩ := of_mem_leftoverName hc
    unfold CodePoint.isEscapedByte
    simp
    omega

theorem leftoverFile_eq (l : Layout) (key token : Text) :
    l.leftoverFile key token = l.root.child (leftoverName key token) :=
  (isEntryName_leftoverName key token).appendText_eq l.root

@[simp] theorem isLeftoverName_leftoverName (key token : Text) :
    isLeftoverName (leftoverName key token) = true := by
  have hends : (leftoverName key token).endsWith extension = true :=
    List.isSuffixOf_iff_suffix.2 (List.suffix_append _ _)
  have hholds : (leftoverName key token).includes separator = true := by
    rw [Text.includes_iff, leftoverName, List.append_assoc]
    exact ⟨_, _, rfl⟩
  rw [isLeftoverName, hends, hholds]
  rfl

/-! ## The listing -/

/-- **The leftover downloads that are listed** are the plain files that are
shown at the root under the name of one, if the root may be inspected and
listed. -/
theorem mem_leftoverFiles_iff {name : Text} (hn : Path.IsEntryName name) :
    l.root.child name ∈ (l.leftoverFiles v).value
      ↔ isLeftoverName name = true
        ∧ v.shows FileTree.isFile (l.root.child name) = true
        ∧ v.denied.list l.root = false ∧ v.denied.inspect l.root = false := by
  have hlisted : l.root.child name ∈ (listFiles v l.root).value
      ↔ name ∈ v.namesIn l.root
        ∧ v.shows FileTree.isFile (l.root.child name) = true := by
    have hinj : Function.Injective l.root.child :=
      fun _ _ h => (Path.child_inj.1 h).2
    rw [listFiles, value_listKind, List.mem_map_of_injective hinj,
      List.mem_filter]
  rw [leftoverFiles, List.mem_filter, Path.name_child, hlisted, and_comm]
  refine and_congr_right fun _ => and_comm.trans (and_congr_right fun hs => ?_)
  obtain ⟨t, ht, -⟩ := Volume.shows_eq_true_iff.1 hs
  exact Volume.mem_namesIn_iff_of_node hn ht

/-- **A plain file under a leftover name is listed**, if the root may be
inspected and listed. -/
theorem leftoverFile_mem_iff :
    l.leftoverFile key token ∈ (l.leftoverFiles v).value
      ↔ v.shows FileTree.isFile (l.leftoverFile key token) = true
        ∧ v.denied.list l.root = false ∧ v.denied.inspect l.root = false := by
  rw [leftoverFile_eq, mem_leftoverFiles_iff (isEntryName_leftoverName key token),
    and_iff_right (isLeftoverName_leftoverName key token)]

/-! ## The cut -/

/-- **A leftover name is cut where its key is**: the first separator of the name
is where the first separator of the key and the one put behind it is. -/
theorem exists_cut?_leftoverName (key token : Text) :
    ∃ read after,
      Text.cut? separator (key ++ separator) = some (read, after)
        ∧ Text.cut? separator (leftoverName key token)
          = some (FileName.escape read,
            FileName.escape after ++ (FileName.escape token ++ extension)) := by
  obtain ⟨read, after, hcut, -⟩ := Text.exists_cut?_append separator key []
  rw [List.append_nil] at hcut
  refine ⟨read, after, hcut, ?_⟩
  rw [leftoverName_eq]
  refine Text.cut?_append_of_cut? ?_ _
  rw [FileName.cut?_escape, hcut]
  rfl

/-- What stands before the first separator is the key exactly if the key
neither holds the separator nor ends with an underscore. -/
theorem eq_key_iff_of_cut? {read after : Text}
    (h : Text.cut? separator (key ++ separator) = some (read, after)) :
    read = key ↔ ¬ separator <:+: key ∧ ¬ (['_'] : Text) <:+ key := by
  rw [← cut?_append_separator_iff key [], List.append_nil, h,
    Option.some.injEq, Prod.mk.injEq]
  refine ⟨?_, And.left⟩
  rintro rfl
  have hkey := Text.eq_of_cut? h
  rw [List.self_eq_append_right] at hkey
  exact ⟨rfl, hkey⟩

end Layout

/-! ## The finding -/

namespace Sources

variable {s : Sources} {v : Volume} {p : Path}

/-- **A leftover download as a candidate for a locale**, whatever its name
says. -/
def leftoverFindingFor (s : Sources) (v : Volume) (p : Path)
    (locale : Locale) : Finding :=
  let address := FileAddress.ofFile v p
  match address.value with
  | none => .none address.log
  | some a =>
    let verdict := s.judge v a locale
    let log := address.log ++ verdict.log
    match verdict.value with
    | .error e => .failure e log
    | .ok (.keep record) => .record record log
    | .ok .discard => .discard a (log ++ discardLog v a)

/-- **A leftover download belongs to the locale** that is read in front of the
first separator of its name. -/
theorem leftoverFinding_of_cut? {front rest key : Text}
    (hcut : Text.cut? Layout.separator p.name = some (front, rest))
    (hkey : FileName.unescape front = .ok key) :
    s.leftoverFinding v p = s.leftoverFindingFor v p (Locale.ofText key) := by
  unfold leftoverFinding
  rw [hcut]
  dsimp only
  rw [hkey]
  rfl

end Sources

/-- **Leftover names are always recognised, and cut between code points of the
key.** Whatever key and token a name is made of, a plain file shown under it at
the root is among the leftover downloads, if the root may be inspected and
listed. The front of the name, up to its first separator, can always be read,
and what is read, and what the file is taken for by every sweep, is the part of
the key and a separator that comes before the first separator. It is the key
itself exactly if the key neither holds the separator nor ends with an
underscore. -/
theorem Layout.leftoverFile_recognised (l : Layout) (key token : Text) :
    l.leftoverFile key token = l.root.child (leftoverName key token)
      ∧ (∀ v : Volume,
        l.leftoverFile key token ∈ (l.leftoverFiles v).value
          ↔ v.shows FileTree.isFile (l.leftoverFile key token) = true
            ∧ v.denied.list l.root = false ∧ v.denied.inspect l.root = false)
      ∧ ∃ front rest read after,
        Text.cut? separator (l.leftoverFile key token).name = some (front, rest)
          ∧ FileName.unescape front = .ok read
          ∧ Text.cut? separator (key ++ separator) = some (read, after)
          ∧ (∀ (s : Sources) (v : Volume),
            s.leftoverFinding v (l.leftoverFile key token)
              = s.leftoverFindingFor v (l.leftoverFile key token)
                (Locale.ofText read))
          ∧ (read = key
            ↔ ¬ separator <:+: key ∧ ¬ (['_'] : Text) <:+ key) := by
  refine ⟨leftoverFile_eq l key token, fun v => leftoverFile_mem_iff, ?_⟩
  obtain ⟨read, after, hkey, hname⟩ := exists_cut?_leftoverName key token
  have hfile : Text.cut? separator (l.leftoverFile key token).name
      = some (FileName.escape read,
        FileName.escape after ++ (FileName.escape token ++ extension)) := by
    rw [leftoverFile_eq, Path.name_child, hname]
  have hread := FileName.unescape_escape read
  exact ⟨_, _, read, after, hfile, hread, hkey,
    fun s v => Sources.leftoverFinding_of_cut? hfile hread,
    eq_key_iff_of_cut? hkey⟩

/-- A key that ends with an underscore loses it to the separator. -/
example : Text.cut? Layout.separator (Layout.leftoverName (lit "en_") (lit "x"))
    = some (lit "en", lit "_x.dict") := by
  decide +kernel

end Lexicon
