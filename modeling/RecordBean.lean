import RecordBean.Encoding
import RecordBean.Json.Writer
import RecordBean.Main
import RecordBean.Session
import RecordBean.Proofs.Placement
import RecordBean.Proofs.Interleaving
import RecordBean.Proofs.RoundTrip
import RecordBean.Proofs.Reference
import RecordBean.Proofs.Containment
import RecordBean.Proofs.Mirroring
import RecordBean.Proofs.Agreement
import RecordBean.Proofs.Locality
import RecordBean.Proofs.Recovery
import RecordBean.Proofs.Restoration
import RecordBean.Proofs.Formats
import RecordBean.Proofs.Packages
import RecordBean.Proofs.Methods
import RecordBean.Proofs.MethodNames
import RecordBean.Proofs.Accessors
import RecordBean.Proofs.Reading.Conditions
import RecordBean.Proofs.Equality
import RecordBean.Proofs.Header
import RecordBean.Proofs.Nesting
import RecordBean.Proofs.Reading.Concatenation
import RecordBean.Proofs.Enumeration
import RecordBean.Proofs.Showing
import RecordBean.Proofs.ExtractionOutcome
import RecordBean.Proofs.RenderingOutcome
import RecordBean.Proofs.ForeignMembers
import RecordBean.Proofs.Drafting
import RecordBean.Proofs.Indexing
import RecordBean.Proofs.Storage
import RecordBean.Proofs.CheckOrder
import RecordBean.Proofs.Obscuring
import RecordBean.Proofs.Entries
import RecordBean.Proofs.Redundancy
import RecordBean.Proofs.Clashes
