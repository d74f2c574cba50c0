import Lexicon.Main
import Lexicon.Header.File
import Lexicon.WordPolicy
import Lexicon.FileTree.Kind
import Lexicon.Text.Utf8.RoundTrip
import Lexicon.Proofs.Header.Rewriting
import Lexicon.Proofs.Header.Window
import Lexicon.Proofs.Staging.Separation
import Lexicon.Proofs.Staging.Repetition
import Lexicon.Proofs.Reconciliation.Visibility
import Lexicon.Proofs.Reconciliation.Clearing
import Lexicon.Proofs.Reconciliation.Storing
import Lexicon.Proofs.Reconciliation.Independence
import Lexicon.Proofs.Reconciliation.Pruning
import Lexicon.Proofs.Reconciliation.BundledListing
import Lexicon.Proofs.Reconciliation.Answering
import Lexicon.Proofs.FileName.Canonical
import Lexicon.Proofs.Store.Batches
import Lexicon.Proofs.Locale.Identity
import Lexicon.Proofs.Bundle.Isolation
import Lexicon.Proofs.Bundle.Branch
import Lexicon.Proofs.Reconciliation.LeftoverNames
import Lexicon.Proofs.WordPolicy.Acceptance
import Lexicon.Proofs.Export.Atomicity
import Lexicon.Proofs.WordListId.Recognition
import Lexicon.Proofs.Locale.Specificity
