import Lexicon.Record

/-!
# Listings

A listing has one record for each locale. A candidate for a locale that is
listed already takes the place of the record there if its version is higher,
and is dropped if not, so of equal versions the first one stays. A candidate
for another locale goes to the end.
-/

namespace Lexicon

/-- **Records, at most one for each locale**, in the order in which the
locales came up. -/
abbrev Listing := List Record

namespace Listing

/-- **The listing with one more candidate.** -/
def merge (new : Record) : Listing → Listing
  | [] => [new]
  | old :: rest =>
    if old.locale = new.locale then
      if new.version ≤ old.version then old :: rest else new :: rest
    else old :: merge new rest

/-- Whether a candidate gets into the listing. -/
def keeps (new : Record) (listing : Listing) : Bool :=
  match listing.find? (·.locale = new.locale) with
  | some old => old.version < new.version
  | none => true

/-- **The listing that candidates give**, taken in order. -/
def ofCandidates (candidates : List Record) : Listing :=
  candidates.foldl (fun listing new => merge new listing) []

end Listing

end Lexicon
