import Lexicon.Listing
import Lexicon.Reconciliation.Sweeps

/-!
# Reconciliation

The current listing of a storage: the candidates of the cache, the leftover
downloads, the bundle and the enabled locales, in this order, merged into one
record for each locale. Leftover downloads of no use are deleted on the way,
before the bundle is looked at. A source that cannot be swept to its end
leaves an empty listing; everything smaller costs only itself.
-/

namespace Lexicon.Sources

/-- **The sweep over all sources**, and the tree after it. -/
def sweep (s : Sources) (v : Volume) : Sweep × FileTree :=
  let cache := s.sweepCache v
  let leftovers := s.sweepLeftovers v
  let tree := afterDiscards v leftovers.discarded
  (cache ++ leftovers ++ s.sweepBundle (v.withTree tree) ++ s.sweepEnabled,
    tree)

/-- **The listing of a storage**, one record for each locale. -/
def reconcile (s : Sources) (v : Volume) : Effect Listing :=
  let (sweep, tree) := s.sweep v
  let root := s.layout.root.toText
  match sweep.failure? with
  | some e =>
    ⟨tree, [], sweep.log ++ [⟨.error, lit "Scanning dictionaries under " ++ root
      ++ lit " failed: " ++ e.message⟩]⟩
  | none =>
    let listing := Listing.ofCandidates sweep.records
    ⟨tree, listing, sweep.log ++ [⟨.info, lit "Found "
      ++ Text.ofNat listing.length ++ lit " dictionaries under " ++ root⟩]⟩

end Lexicon.Sources
