import EventCycle.Config.Document
import EventCycle.Cycle.Document
import EventCycle.Declaration.Source
import EventCycle.Pattern.Document
import EventCycle.Proofs.Cycle.Batch
import EventCycle.Proofs.Cycle.BatchLog
import EventCycle.Proofs.Cycle.Collisions
import EventCycle.Proofs.Cycle.Compilation
import EventCycle.Proofs.Cycle.DerivedGroups
import EventCycle.Proofs.Cycle.GroupIdentity
import EventCycle.Proofs.Cycle.Meaning
import EventCycle.Proofs.Cycle.Outcomes
import EventCycle.Proofs.Cycle.Overlaps
import EventCycle.Proofs.Cycle.Reordering
import EventCycle.Proofs.Cycle.Respelling
import EventCycle.Proofs.Cycle.SinglePattern
import EventCycle.Proofs.Cycle.Strictness
import EventCycle.Proofs.Field.Decoding
import EventCycle.Proofs.Field.Disjointness
import EventCycle.Proofs.Field.Window
import EventCycle.Proofs.Json.Numbers
import EventCycle.Proofs.Json.Records
import EventCycle.Proofs.Json.RoundTrip
import EventCycle.Proofs.Json.Strings
import EventCycle.Proofs.Pattern.AdvertisedForm
import EventCycle.Proofs.Pattern.Disjointness
import EventCycle.Proofs.Pattern.Grammar
import EventCycle.Proofs.Pattern.GroupName
import EventCycle.Proofs.Pattern.GroupPattern
import EventCycle.Proofs.Pattern.Operands
import EventCycle.Proofs.Pattern.Singletons
import EventCycle.Proofs.Pattern.Usages
import EventCycle.Session
import EventCycle.Proofs.Declaration.Documents
