import AnchoredArrays.Session.Item
import AnchoredArrays.Arguments
import AnchoredArrays.Lookup.FileTree
import AnchoredArrays.Proofs.Sorting.Order
import AnchoredArrays.Proofs.Call.Plan
import AnchoredArrays.Proofs.Call.Granted
import AnchoredArrays.Proofs.Anchored.Laid
import AnchoredArrays.Proofs.Anchored.Contents
import AnchoredArrays.Proofs.Anchored.Shifting
import AnchoredArrays.Proofs.Anchored.Copies
import AnchoredArrays.Proofs.Anchored.Growth
import AnchoredArrays.Proofs.Anchored.Removal
import AnchoredArrays.Proofs.Anchored.Moves
import AnchoredArrays.Proofs.Anchored.Filling
import AnchoredArrays.Proofs.Anchored.Drafts
import AnchoredArrays.Proofs.Anchored.Making
import AnchoredArrays.Proofs.Anchored.InPlace
import AnchoredArrays.Proofs.Session.Calls
import AnchoredArrays.Proofs.Session.Steps
import AnchoredArrays.Proofs.Session.Workshop
import AnchoredArrays.Proofs.Edits.Removing
import AnchoredArrays.Proofs.Edits.Growing
import AnchoredArrays.Proofs.Slices.Target
import AnchoredArrays.Proofs.Slices.Copied
import AnchoredArrays.Proofs.Slices.Moved
import AnchoredArrays.Proofs.Call.Balance
import AnchoredArrays.Proofs.Anchored.Accounts
import AnchoredArrays.Proofs.Session.Accounts
import AnchoredArrays.Proofs.Session.Makings
import AnchoredArrays.Proofs.Session.Ledger
import AnchoredArrays.Proofs.Slices.Splitting
import AnchoredArrays.Proofs.Call.Alongside
import AnchoredArrays.Proofs.Anchored.Translated
import AnchoredArrays.Proofs.Session.Translation
import AnchoredArrays.Proofs.Call.Guards
import AnchoredArrays.Proofs.Session.Exactness
import AnchoredArrays.Proofs.Slices.Paths
import AnchoredArrays.Proofs.Call.Requests
import AnchoredArrays.Proofs.Anchored.Demands
import AnchoredArrays.Proofs.Session.Requests
import AnchoredArrays.Proofs.Edits.Outcomes
import AnchoredArrays.Proofs.Edits.Inverses
import AnchoredArrays.Proofs.Edits.Stepwise
import AnchoredArrays.Proofs.Sorting.Comparisons
import AnchoredArrays.Proofs.Slices.Rejoined
import AnchoredArrays.Proofs.Anchored.Repeating
import AnchoredArrays.Proofs.Session.Resizing
import AnchoredArrays.Proofs.Anchored.Visiting
import AnchoredArrays.Proofs.Anchored.Draining
import AnchoredArrays.Proofs.Call.Records
import AnchoredArrays.Proofs.Anchored.Reports
import AnchoredArrays.Proofs.Session.Labels
import AnchoredArrays.Proofs.Text.Readable
import AnchoredArrays.Proofs.Sorting.Spans
import AnchoredArrays.Proofs.Sorting.Ties
import AnchoredArrays.Proofs.Arguments.Decoding
import AnchoredArrays.Proofs.Lookup.Locating
