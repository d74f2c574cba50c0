import Mathlib.Data.List.Induction
import Lexicon.Proofs.Header.RoundTrip
import Lexicon.Proofs.Text.Utf8.Uniqueness

/-!
# Blocks of attributes

What bytes are a block of attributes is said here without a reader: keys and
values in turn, each in UTF-8, free of zero bytes and closed by one
(`Header.IsBlock`). A block may repeat a key. The attributes that it gives have
each key once, in the order in which the keys come up, with the value that
stands last (`Attributes.Collects`).

The reader takes exactly the blocks and gives exactly these attributes
(`Header.readAttributes_eq_ok_iff`).
-/

namespace Lexicon

namespace Attributes

/-! ## Attributes of pairs with repeated keys -/

/-- **The attributes that pairs give**: each key where it stands first, with the
value that stands last. -/
structure Collects (a : Attributes) (pairs : List (Text × Text)) : Prop where
  /-- The keys, in the order in which they come up. -/
  keys_eq : a.entries.map (·.1) = (pairs.map (·.1)).eraseDups
  /-- The value of a key is the last one. -/
  get?_eq : ∀ key, a.get? key = pairs.reverse.lookup key

/-- Setting a key that is there already leaves the keys as they are. -/
theorem keys_setEntry_of_mem {key : Text} (value : Text)
    {entries : List (Text × Text)} (h : key ∈ entries.map (·.1)) :
    (setEntry key value entries).map (·.1) = entries.map (·.1) := by
  induction entries with
  | nil => exact absurd h List.not_mem_nil
  | cons e rest ih =>
    unfold setEntry
    by_cases hk : e.1 = key
    · rw [if_pos hk]
      rfl
    · rw [List.map_cons, List.mem_cons, or_iff_right (Ne.symm hk)] at h
      rw [if_neg hk, List.map_cons, ih h]
      rfl

/-- One more pair sets its key. -/
theorem Collects.set {a : Attributes} {pairs : List (Text × Text)}
    (h : a.Collects pairs) (key value : Text) :
    (a.set key value).Collects (pairs ++ [(key, value)]) := by
  have hmem : key ∈ a.entries.map (·.1) ↔ key ∈ pairs.map (·.1) := by
    rw [h.keys_eq, List.mem_eraseDups]
  constructor
  · show (setEntry key value a.entries).map (·.1) = _
    rw [List.map_append, List.map_singleton, List.eraseDups_append, ← h.keys_eq]
    unfold List.removeAll
    by_cases hk : key ∈ pairs.map (·.1)
    · rw [keys_setEntry_of_mem value (hmem.2 hk),
        List.filter_cons_of_neg (by simpa using hk), List.filter_nil,
        List.eraseDups_nil, List.append_nil]
    · rw [setEntry_of_not_mem (mt hmem.1 hk),
        List.filter_cons_of_pos (by simpa using hk), List.filter_nil,
        List.map_append]
      rfl
  · intro k
    rw [get?_set, h.get?_eq, List.reverse_append, List.reverse_singleton,
      List.singleton_append, List.lookup_cons]
    by_cases hk : k = key
    · rw [if_pos hk, hk, beq_self_eq_true]
    · rw [if_neg hk, beq_false_of_ne hk]

/-- **Pairs that are set one after the other** are collected. -/
theorem collects_ofList (pairs : List (Text × Text)) :
    (ofList pairs).Collects pairs := by
  induction pairs using List.reverseRecOn with
  | nil => exact ⟨rfl, fun _ => rfl⟩
  | append_singleton pairs p ih =>
    have hset : ofList (pairs ++ [p]) = (ofList pairs).set p.1 p.2 :=
      List.foldl_append
    rw [hset]
    exact ih.set p.1 p.2

/-- Entries with distinct keys are told by their keys and what is found under
them. -/
theorem entries_eq_of_lookup_eq {entries entries' : List (Text × Text)}
    (hd : (entries.map (·.1)).Nodup)
    (hk : entries.map (·.1) = entries'.map (·.1))
    (hl : ∀ key, entries.lookup key = entries'.lookup key) :
    entries = entries' := by
  induction entries generalizing entries' with
  | nil => exact (List.map_eq_nil_iff.1 hk.symm).symm
  | cons e rest ih =>
    obtain - | ⟨e', rest'⟩ := entries'
    · exact absurd hk (by simp)
    obtain ⟨key, value⟩ := e
    obtain ⟨key', value'⟩ := e'
    rw [List.map_cons, List.map_cons, List.cons.injEq] at hk
    obtain ⟨rfl, hk⟩ := hk
    rw [List.map_cons, List.nodup_cons] at hd
    have hvalue := hl key
    rw [List.lookup_cons_self, List.lookup_cons_self, Option.some.injEq]
      at hvalue
    have hrest : rest = rest' := by
      refine ih hd.2 hk fun k => ?_
      by_cases h : k = key
      · -- the key stands in front and nowhere else
        have hnone : ∀ {es : List (Text × Text)}, key ∉ es.map (·.1) →
            es.lookup key = none := by
          intro es hes
          refine List.lookup_eq_none_iff.2 fun e he => ?_
          rw [bne_iff_ne]
          rintro rfl
          exact hes (List.mem_map_of_mem he)
        rw [h, hnone hd.1, hnone (by rw [← hk]; exact hd.1)]
      · have hk' := hl k
        rwa [List.lookup_cons, List.lookup_cons, beq_false_of_ne h] at hk'
    rw [hvalue, hrest]

/-- **Pairs are collected in one way.** -/
theorem collects_iff {a : Attributes} {pairs : List (Text × Text)} :
    a.Collects pairs ↔ ofList pairs = a := by
  constructor
  · intro h
    have h' := collects_ofList pairs
    have hentries : (ofList pairs).entries = a.entries :=
      entries_eq_of_lookup_eq (ofList pairs).nodup
        (h'.keys_eq.trans h.keys_eq.symm)
        fun key => (h'.get?_eq key).trans (h.get?_eq key).symm
    obtain ⟨entries, nodup⟩ := a
    exact mk.injEq .. ▸ hentries
  · rintro rfl
    exact collects_ofList pairs

end Attributes

namespace Header

/-! ## Blocks -/

/-- **A block of attributes** with its keys and values: each is written in UTF-8
without a zero byte, and closed by one. -/
inductive IsBlock : List Byte → List (Text × Text) → Prop where
  /-- The empty block has no attributes. -/
  | nil : IsBlock [] []
  /-- A key and its value stand in front of a block. -/
  | cons {key value : Text} {k v rest : List Byte} {pairs : List (Text × Text)}
      (key_eq : Utf8.encode key = .ok k) (key_zero : (0 : Byte) ∉ k)
      (value_eq : Utf8.encode value = .ok v) (value_zero : (0 : Byte) ∉ v)
      (rest_isBlock : IsBlock rest pairs) :
      IsBlock (k ++ 0 :: (v ++ 0 :: rest)) ((key, value) :: pairs)

/-- The first field of a block ends at the first zero. -/
theorem exists_of_fields?_cons {block f : List Byte} {fs : List (List Byte)}
    (h : fields? block = some (f :: fs)) :
    ∃ rest, block = f ++ 0 :: rest ∧ fields? rest = some fs := by
  induction block generalizing f with
  | nil => exact absurd h (by simp [fields?])
  | cons b rest ih =>
    rw [fields?] at h
    cases hrest : fields? rest with
    | none =>
      rw [hrest] at h
      exact absurd h (by simp)
    | some fields =>
      rw [hrest] at h
      dsimp only at h
      split at h
      · rename_i hb
        obtain ⟨rfl, rfl⟩ := List.cons.inj (Option.some.inj h)
        exact ⟨rest, by rw [hb, List.nil_append], hrest⟩
      · split at h
        · exact absurd h (by simp)
        · rename_i g more
          obtain ⟨rfl, rfl⟩ := List.cons.inj (Option.some.inj h)
          obtain ⟨rest', rfl, hmore⟩ := ih hrest
          exact ⟨rest', rfl, hmore⟩

/-- Only the empty block has no fields. -/
theorem eq_nil_of_fields?_nil {block : List Byte} (h : fields? block = some []) :
    block = [] := by
  cases block with
  | nil => rfl
  | cons b rest =>
    rw [fields?] at h
    split at h
    · exact absurd h (by simp)
    · split at h
      · exact absurd h (by simp)
      · split at h <;> exact absurd h (by simp)

/-- **A block is taken apart into its keys and values.** -/
theorem IsBlock.exists_pairs {block : List Byte} {pairs : List (Text × Text)}
    (h : IsBlock block pairs) :
    ∃ ps, (fields? block).bind pairs? = some ps
      ∧ ps.mapM decodePair? = some pairs := by
  induction h with
  | nil => exact ⟨[], rfl, rfl⟩
  | @cons key value k v rest pairs hkey hk hvalue hv _ ih =>
    obtain ⟨ps, hps, htexts⟩ := ih
    obtain ⟨fs, hfs, hps⟩ := Option.bind_eq_some_iff.1 hps
    refine ⟨(k, v) :: ps, ?_, ?_⟩
    · rw [fields?_append hk, fields?_append hv, hfs]
      show (pairs? fs).map _ = _
      rw [hps]
      rfl
    · have hpair : decodePair? (k, v) = some (key, value) := by
        unfold decodePair?
        rw [Utf8.decode?_eq_some_iff.2 hkey, Utf8.decode?_eq_some_iff.2 hvalue]
        rfl
      rw [List.mapM_cons, hpair, htexts]
      rfl

/-- **Nothing else is taken apart so.** -/
theorem isBlock_of_pairs {block : List Byte} {fs : List (List Byte)}
    {ps : List (List Byte × List Byte)} {pairs : List (Text × Text)}
    (hfs : fields? block = some fs) (hps : pairs? fs = some ps)
    (hpairs : ps.mapM decodePair? = some pairs) : IsBlock block pairs := by
  fun_induction pairs? fs generalizing block ps pairs with
  | case1 =>
    obtain rfl := Option.some.inj hps
    obtain rfl := eq_nil_of_fields?_nil hfs
    rw [← Option.some.inj (show some [] = some pairs from hpairs)]
    exact .nil
  | case2 => exact absurd hps (by simp)
  | case3 k v fs ih =>
    have hzero := zero_not_mem_of_fields? hfs
    obtain ⟨qs, hqs, rfl⟩ := Option.map_eq_some_iff.1 hps
    obtain ⟨_, rfl, hvs⟩ := exists_of_fields?_cons hfs
    obtain ⟨rest, rfl, hrest⟩ := exists_of_fields?_cons hvs
    rw [List.mapM_cons] at hpairs
    obtain ⟨⟨key, value⟩, hpair, hpairs⟩ := Option.bind_eq_some_iff.1 hpairs
    obtain ⟨texts, htexts, hpairs⟩ := Option.bind_eq_some_iff.1 hpairs
    rw [← Option.some.inj
      (show some ((key, value) :: texts) = some pairs from hpairs)]
    unfold decodePair? at hpair
    obtain ⟨key', hkey, hpair⟩ := Option.bind_eq_some_iff.1 hpair
    obtain ⟨value', hvalue, hpair⟩ := Option.bind_eq_some_iff.1 hpair
    obtain ⟨rfl, rfl⟩ := Prod.mk.inj (Option.some.inj
      (show some (key', value') = some (key, value) from hpair))
    exact .cons (Utf8.decode?_eq_some_iff.1 hkey)
      (hzero k List.mem_cons_self) (Utf8.decode?_eq_some_iff.1 hvalue)
      (hzero v (List.mem_cons_of_mem _ List.mem_cons_self)) (ih hrest hqs htexts)

/-- **The reader takes exactly the blocks of attributes**, and gives what their
pairs are collected in. -/
theorem readAttributes_eq_ok_iff {block : List Byte} {a : Attributes} :
    readAttributes block = .ok a
      ↔ ∃ pairs, IsBlock block pairs ∧ a.Collects pairs := by
  constructor
  · intro h
    unfold readAttributes at h
    split at h
    · exact absurd h (by simp)
    rename_i ps hps
    obtain ⟨fs, hfs, hps⟩ := Option.bind_eq_some_iff.1 hps
    split at h
    · exact absurd h (by simp)
    rename_i pairs hpairs
    exact ⟨pairs, isBlock_of_pairs hfs hps hpairs,
      Attributes.collects_iff.2 (Except.ok.inj h)⟩
  · rintro ⟨pairs, hblock, ha⟩
    obtain ⟨ps, hps, hpairs⟩ := hblock.exists_pairs
    unfold readAttributes
    rw [hps]
    dsimp only
    rw [hpairs]
    dsimp only
    rw [Attributes.collects_iff.1 ha]

end Header

end Lexicon
