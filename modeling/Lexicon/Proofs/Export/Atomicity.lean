import Lexicon.Proofs.Export.Drafts
import Lexicon.Proofs.Path.SpelledOut
import Lexicon.Proofs.Volume.MadeDirectories

/-!
# Exports are all or nothing

An export goes well exactly if every row of it has a place in a table, the
directory of its destination can be made, there is room for a draft whose path
can be written, and a plain file can be put at the destination
(`Exportable`). Then the destination holds the rows of the records, in their
order, and all other plain files are as they were. If not, all plain files are
as they were, and no draft is left behind (`writeBy_atomic`). Directories that
were made on the way stay in either case.
-/

namespace Lexicon

/-- **Whether a row has a place in a table**, told by what it holds. -/
def Row.IsTabular (r : Row) : Prop :=
  (∀ t ∈ r.texts, ∀ c ∈ t, c.isSurrogate = false)
    ∧ ∀ n ∈ r.numbers, isInt64 n = true

namespace Export

variable {v : Volume} {t : FileTree} {p draft : Path} {above place : Place}
  {f : File} {rows : List Row} {records : List Record} {names : List Text}

/-! ## Tables -/

@[simp] theorem checkNumber_eq_ok_iff {n : Int} :
    checkNumber n = .ok () ↔ isInt64 n = true := by
  unfold checkNumber
  split <;> simp_all

/-- **A row has a place in a table** exactly if its texts and its numbers
have. -/
theorem checkRow_eq_ok_iff {r : Row} : checkRow r = .ok () ↔ r.IsTabular := by
  have htexts : r.texts.findSome? Utf8.surrogateRun? = none
      ↔ ∀ t ∈ r.texts, ∀ c ∈ t, c.isSurrogate = false := by
    rw [List.findSome?_eq_none_iff]
    exact forall₂_congr fun t _ => Utf8.surrogateRunFrom?_eq_none_iff 0 t
  unfold checkRow Row.IsTabular
  rw [← htexts]
  cases r.texts.findSome? Utf8.surrogateRun? with
  | some run => simp
  | none =>
    rw [eq_self, true_and]
    exact forM_eq_ok.trans (forall₂_congr fun _ _ => checkNumber_eq_ok_iff)

/-- **Records have a table** exactly if each of their rows has a place in it,
and the table is these rows. -/
theorem table_eq_ok_iff :
    table records = .ok rows
      ↔ (∀ r ∈ records, r.toRow.IsTabular)
        ∧ records.map Record.toRow = rows := by
  unfold table
  dsimp only
  rw [bind_unit_eq_ok, forM_eq_ok, List.forall_mem_map]
  exact and_congr (forall₂_congr fun _ _ => checkRow_eq_ok_iff)
    ⟨Except.ok.inj, congrArg _⟩

/-! ## From the draft to the destination -/

/-- **An export that went well**: the table is at the destination, and this is
all that changed. -/
structure Published (t : FileTree) (p : Path) (rows : List Row)
    (e : Effect (Except ExportError Path)) : Prop where
  /-- The destination is told. -/
  value : e.value = .ok p
  /-- The table is there. -/
  view : ∃ place, e.tree.locate p = .ok place
    ∧ ∀ q, e.tree.kind? q
      = if q = place then some (.file ⟨.listing rows, 0⟩) else t.kind? q

/-- **An export that went wrong**: nothing changed. -/
structure Withdrawn (t : FileTree) (e : Effect (Except ExportError Path)) :
    Prop where
  /-- There is an error. -/
  value : ∃ error, e.value = .error error
  /-- Everything is as it was. -/
  view : ∀ q, e.tree.kind? q = t.kind? q

/-- **An export that has a draft** puts the table at the destination, or leaves
the tree as it was before there was a draft. -/
theorem publish_spec (h : IsDraft t v.tree draft place f)
    (hi : v.denied.inspect draft = false)
    (hr : v.denied.remove draft = false) (p : Path) (rows : List Row) :
    ((draft.toText.any CodePoint.isSurrogate = false ∧ t.Admits p)
        ∧ Published t p rows (publish v draft p rows))
      ∨ (¬ (draft.toText.any CodePoint.isSurrogate = false ∧ t.Admits p)
        ∧ Withdrawn t (publish v draft p rows)) := by
  unfold publish
  obtain ⟨hlegible, filled, hfill, h'⟩ | ⟨hillegible, hfill⟩ :=
    h.fillDraft_spec rows
  · rw [hfill]
    dsimp only
    have hplace := FileTree.locate_mono h'.adds.keepsDirs.1 h'.located
    have hmove : (∃ u, filled.rename draft p = .ok u) ↔ filled.Admits p :=
      FileTree.exists_rename_iff h'.check h'.named hplace h'.adds.kind?_self
    cases hrename : filled.rename draft p with
    | error e =>
      have hadmits : ¬ t.Admits p := fun hp => by
        obtain ⟨u, hu⟩ := hmove.2 (hp.of_keepsDirs h'.adds.keepsDirs.1
          h'.adds.keepsDirs.2)
        rw [hrename] at hu
        exact absurd hu (by simp)
      obtain ⟨hvalue, hview⟩ :=
        IsDraft.abandon_spec (v := v.withTree filled) h' hi hr p (.file e)
      exact Or.inr ⟨fun hp => hadmits hp.2, ⟨_, hvalue⟩, hview⟩
    | ok u =>
      exact Or.inl ⟨⟨hlegible, (hmove.1 ⟨u, hrename⟩).of_keepsDirs
        h'.adds.keepsDirs.2 h'.adds.keepsDirs.1⟩, rfl,
        h'.adds.rename_eq_ok hplace hrename⟩
  · rw [hfill]
    obtain ⟨hvalue, hview⟩ := h.abandon_spec hi hr p .unwritable
    refine Or.inr ⟨fun hp => ?_, ⟨_, hvalue⟩, hview⟩
    rw [hillegible] at hp
    exact absurd hp.1 (by simp)

/-! ## The export -/

/-- **What an export takes to go well.** Whether there is room for a draft and
what the destination is depend on the directories that are made for it. -/
structure Exportable (names : List Text) (v : Volume) (p : Path)
    (records : List Record) : Prop where
  /-- Every row has a place in a table. -/
  tabular : ∀ r ∈ records, r.toRow.IsTabular
  /-- The directory of the destination is there, or can be made. -/
  parents : (v.makeDirs p.parent).2 = .ok ()
  /-- A draft can be made beside the destination. -/
  room : ∃ above, (v.makeDirs p.parent).1.locate p.parent = .ok above
    ∧ HasRoom (v.makeDirs p.parent).1 p.parent.spelledOut above names
  /-- Its path can be written. -/
  legible : ∀ part ∈ p.parent.spelledOut.parts, ∀ c ∈ part,
    c.isSurrogate = false
  /-- A plain file can be put at the destination. -/
  target : (v.makeDirs p.parent).1.Admits p

theorem slash_not_mem_of_mem_ofText {s part : Text}
    (h : part ∈ (Path.ofText s).parts) : Path.slash ∉ part := by
  intro hslash
  have hsplit := (List.mem_filter.1 h).1
  exact absurd (Text.isSeparator_of_mem_split hsplit hslash) (by decide)

/-- What an export takes once the directories are made. -/
theorem exportable_iff (hm : v.makeDirs p.parent = (t, .ok ()))
    (ha : t.locate p.parent = .ok above) :
    Exportable names v p records
      ↔ (∀ r ∈ records, r.toRow.IsTabular)
        ∧ HasRoom t p.parent.spelledOut above names
        ∧ (∀ part ∈ p.parent.spelledOut.parts, ∀ c ∈ part,
          c.isSurrogate = false)
        ∧ t.Admits p := by
  constructor
  · rintro ⟨htabular, -, ⟨above', ha', hroom⟩, hlegible, htarget⟩
    rw [hm] at ha' hroom htarget
    obtain rfl := Except.ok.inj (ha.symm.trans ha')
    exact ⟨htabular, hroom, hlegible, htarget⟩
  · rintro ⟨htabular, hroom, hlegible, htarget⟩
    have ht : (v.makeDirs p.parent).1 = t := by rw [hm]
    exact ⟨htabular, by rw [hm], ⟨above, ht ▸ ha, ht ▸ hroom⟩, hlegible,
      ht ▸ htarget⟩

/-- **An export whose directories were made** puts the table at the destination
or leaves the tree as it was with the directories. -/
theorem writeBy_of_makeDirs (hn : ∀ name ∈ names, IsDraftName name)
    (hd : ∀ name ∈ names,
      v.denied.inspect (p.parent.spelledOut.child name) = false
        ∧ v.denied.remove (p.parent.spelledOut.child name) = false)
    (hs : ∀ part ∈ p.parts, Path.slash ∉ part)
    (hm : v.makeDirs p.parent = (t, .ok ())) (records : List Record) :
    (Exportable names v p records
        ∧ Published t p (records.map Record.toRow)
          (writeBy names v p records))
      ∨ (¬ Exportable names v p records
        ∧ Withdrawn t (writeBy names v p records)) := by
  have hmade := Volume.hasDirAt_of_makeDirs (congrArg Prod.snd hm)
  rw [hm] at hmade
  obtain ⟨-, above, habove, hdir⟩ := hmade
  -- the draft is made beside the destination
  have hbeside : t.locate p.parent.spelledOut = .ok above :=
    FileTree.locate_spelledOut
      (fun part hp => hs part (List.dropLast_subset _ hp)) habove
  rw [exportable_iff hm habove]
  unfold writeBy
  rw [hm]
  dsimp only
  cases htable : table records with
  | error e =>
    refine Or.inr ⟨fun ⟨htabular, _⟩ => ?_, ⟨_, rfl⟩, fun _ => rfl⟩
    rw [table_eq_ok_iff.2 ⟨htabular, rfl⟩] at htable
    exact absurd htable (by simp)
  | ok rows =>
    obtain ⟨htabular, rfl⟩ := table_eq_ok_iff.1 htable
    dsimp only
    obtain ⟨hroom, name, hname, u, hopen, hdraft⟩ | ⟨hroom, e, hopen⟩ :=
      openDraft_spec hn hbeside hdir
    · rw [hopen]
      obtain ⟨hi, hr⟩ := hd name hname
      have hlegible :
          (p.parent.spelledOut.child name).toText.any CodePoint.isSurrogate
              = false
            ↔ ∀ part ∈ p.parent.spelledOut.parts, ∀ c ∈ part,
              c.isSurrogate = false :=
        (hn name hname).any_isSurrogate_toText
      obtain ⟨⟨hwritable, htarget⟩, hend⟩ | ⟨hrefused, hend⟩ :=
        publish_spec (v := v.withTree u) hdraft hi hr p
          (records.map Record.toRow)
      · exact Or.inl ⟨⟨htabular, hroom, hlegible.1 hwritable, htarget⟩, hend⟩
      · exact Or.inr ⟨fun ⟨_, _, hwritable, htarget⟩ =>
          hrefused ⟨hlegible.2 hwritable, htarget⟩, hend⟩
    · rw [hopen]
      exact Or.inr ⟨fun ⟨_, hroom', _⟩ => hroom hroom', ⟨_, rfl⟩, fun _ => rfl⟩

/-- **An export is all or nothing**, whatever names are tried for its draft, as
long as the draft may be taken away. If what it takes is there, the destination
holds the rows of the records, in order, and every other plain file is as it
was. If not, there is an error, and every plain file is as it was. No draft is
left behind in either case. -/
theorem writeBy_atomic (names : List Text) (v : Volume) (s : Text)
    (records : List Record) (hn : ∀ name ∈ names, IsDraftName name)
    (hd : ∀ name ∈ names,
      v.denied.inspect ((Path.ofText s).parent.spelledOut.child name) = false
        ∧ v.denied.remove ((Path.ofText s).parent.spelledOut.child name)
          = false) :
    let p := Path.ofText s
    let e := writeBy names v p records
    (Exportable names v p records ∧ e.value = .ok p
        ∧ ∃ place, e.tree.locate p = .ok place
          ∧ e.tree.kind? place
            = some (.file ⟨.listing (records.map Record.toRow), 0⟩)
          ∧ ∀ q, q ≠ place → ∀ f,
            e.tree.kind? q = some (.file f) ↔ v.tree.kind? q = some (.file f))
      ∨ (¬ Exportable names v p records ∧ (∃ error, e.value = .error error)
        ∧ ∀ q f,
          e.tree.kind? q = some (.file f)
            ↔ v.tree.kind? q = some (.file f)) := by
  intro p e
  have hgains := Volume.gains_makeDirs v p.parent
  rcases hm : v.makeDirs p.parent with ⟨t, refusal | ⟨⟨⟩⟩⟩
  · rw [hm] at hgains
    have he : e = ⟨t, .error (.file refusal), []⟩ := by
      unfold e writeBy
      rw [hm]
    rw [he]
    refine Or.inr ⟨fun h => ?_, ⟨_, rfl⟩, fun q f => hgains.kind?_eq_file_iff⟩
    have hparents := h.parents
    rw [hm] at hparents
    exact absurd hparents (by simp)
  · rw [hm] at hgains
    obtain ⟨hfit, hvalue, place, hplace, hview⟩ | ⟨hunfit, hvalue, hview⟩ :=
      writeBy_of_makeDirs hn hd (fun _ => slash_not_mem_of_mem_ofText) hm records
    · refine Or.inl ⟨hfit, hvalue, place, hplace, ?_, fun q hq f => ?_⟩
      · rw [hview, if_pos rfl]
      · rw [hview, if_neg hq]
        exact hgains.kind?_eq_file_iff
    · refine Or.inr ⟨hunfit, hvalue, fun q f => ?_⟩
      rw [hview]
      exact hgains.kind?_eq_file_iff

/-- A French dictionary under some identifier. -/
def french (id : Text) : Record :=
  ⟨some id, ⟨lit "fr", [], [], []⟩, none, none, 22, 1600000000000, 7⟩

/-- The way to the destination leads through a directory that is not there yet
and back, what stands at the destination is replaced, and the first name for a
draft is taken. Nothing can be put at a directory. -/
theorem writeBy_atomic_sample :
    let v : Volume := ⟨.dir [(lit "l", .file ⟨.bytes [1], 5⟩),
      (lit "tmp00000000.parquet", .file ⟨.bytes [2], 6⟩),
      (lit "taken", .dir [])], {}⟩
    let records := [french (lit "main:fr"), french (lit "user:fr")]
    let e := writeBy draftNames v (Path.ofText (lit "d/../l")) records
    let e' := writeBy draftNames v (Path.ofText (lit "taken")) records
    (∀ name ∈ draftNames, IsDraftName name)
      ∧ e.value = .ok (Path.ofText (lit "d/../l"))
      ∧ (∃ place, e.tree.locate (Path.ofText (lit "d/../l")) = .ok place
        ∧ e.tree.kind? place
          = some (.file ⟨.listing (records.map Record.toRow), 0⟩)
        ∧ ∀ q, q ≠ place → ∀ f,
          e.tree.kind? q = some (.file f) ↔ v.tree.kind? q = some (.file f))
      ∧ e'.value = .error (.file .isDirectory)
      ∧ ∀ q f,
        e'.tree.kind? q = some (.file f) ↔ v.tree.kind? q = some (.file f) := by
  intro v records e e'
  have hnames : ∀ name ∈ draftNames, IsDraftName name :=
    fun _ => isDraftName_of_mem_draftNames
  have hvalue : e.value = .ok (Path.ofText (lit "d/../l")) := by decide +kernel
  have hvalue' : e'.value = .error (.file .isDirectory) := by decide +kernel
  refine ⟨hnames, hvalue, ?_, hvalue', ?_⟩
  · obtain ⟨-, -, h⟩ | ⟨-, ⟨error, he⟩, -⟩ :=
      writeBy_atomic draftNames v (lit "d/../l") records hnames
        fun _ _ => ⟨rfl, rfl⟩
    · exact h
    · rw [hvalue] at he
      exact absurd he (by simp)
  · obtain ⟨-, he, -⟩ | ⟨-, -, h⟩ :=
      writeBy_atomic draftNames v (lit "taken") records hnames
        fun _ _ => ⟨rfl, rfl⟩
    · rw [hvalue'] at he
      exact absurd he (by simp)
    · exact h

/-- **A text with a surrogate is refused**, though every number fits and the
directory, the draft and the destination can be made, as they are for another
text. And where the way to the destination holds a surrogate, no text is taken:
the directory is there and so is the destination, but a draft beside it cannot
be written. -/
theorem write_surrogate :
    let v : Volume := ⟨.dir [([0xDC80], .dir [(lit "x.parquet",
      .file ⟨.bytes [1], 0⟩)])], {}⟩
    let p := Path.ofText (lit "x.parquet")
    let q := Path.ofText (0xDC80 :: lit "/x.parquet")
    let taken := french (lit "x")
    let refused := french [0xD800]
    (∀ n ∈ refused.toRow.numbers, isInt64 n = true)
      ∧ (write v p [taken]).value = .ok p
      ∧ (write v p [refused]).value = .error (.unencodable ⟨0xD800, 0, 0⟩)
      ∧ v.isFile q = .ok true
      ∧ (write v q [taken]).value = .error .unwritable := by
  intro v p q taken refused
  exact ⟨by decide +kernel, by decide +kernel, by decide +kernel,
    by decide +kernel, by decide +kernel⟩

end Export

end Lexicon
