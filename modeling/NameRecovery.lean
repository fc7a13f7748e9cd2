import NameRecovery.Main
import NameRecovery.Proofs.Scan.Accepted
import NameRecovery.Proofs.NameMap
import NameRecovery.Proofs.Scan.Completeness
import NameRecovery.Proofs.Scan.Coverage
import NameRecovery.Proofs.Scan.Marker
import NameRecovery.Proofs.Listing.Layout
import NameRecovery.Proofs.Listing.Exactness
import NameRecovery.Proofs.Listing.Atomicity
import NameRecovery.Proofs.Listing.Growth
import NameRecovery.Proofs.Scan.Growth
import NameRecovery.Proofs.Scan.Entries
import NameRecovery.Proofs.Scan.Segments
import NameRecovery.Proofs.Recovery.Growth
import NameRecovery.Proofs.Text.Blank
import NameRecovery.Proofs.Text.Lines
import NameRecovery.Proofs.Hex.Spelling
import NameRecovery.Proofs.Listing.Source
import NameRecovery.Proofs.Listing.Printing
import NameRecovery.Proofs.Listing.Gaps
import NameRecovery.Proofs.Report.Lines
import NameRecovery.Proofs.CommandLine.Modes
import NameRecovery.Proofs.CommandLine.Agreement
import NameRecovery.Proofs.Listing.Replay
import NameRecovery.Proofs.NameMap.History
import NameRecovery.Proofs.Listing.Provenance
import NameRecovery.Proofs.Recovery.Provenance
import NameRecovery.Proofs.Relocation
import NameRecovery.Proofs.Scan.Relocation
import NameRecovery.Proofs.Listing.Relocation
import NameRecovery.Proofs.Recovery.Relocation
import NameRecovery.Proofs.Scan.Sharing
import NameRecovery.Proofs.Scan.Loosening
import NameRecovery.Proofs.Listing.Columns
import NameRecovery.Proofs.Hex.Decoding
import NameRecovery.Proofs.Listing.Groups
import NameRecovery.Proofs.Listing.Commentary
import NameRecovery.Proofs.Listing.Failure
import NameRecovery.Proofs.Listing.Counters
import NameRecovery.Proofs.Scan.Guarded
import NameRecovery.Proofs.Hex.Reading
import NameRecovery.Proofs.Address
import NameRecovery.Proofs.Listing.AddressColumn
import NameRecovery.Proofs.CommandLine.Typed
import NameRecovery.Proofs.Report.Reading
import NameRecovery.Proofs.Document
import NameRecovery.Proofs.Report.Document
import NameRecovery.Proofs.Recovery.Notices
