import Conformance.Heap.Construction
import Conformance.Session.Command
import Conformance.Proofs.Conforms
import Conformance.Proofs.Divergence
import Conformance.Proofs.PathReader
import Conformance.Proofs.Stumble
import Conformance.Proofs.Transparency
import Conformance.Proofs.ClosedPattern
import Conformance.Proofs.CallOrder
import Conformance.Proofs.Reentry
import Conformance.Proofs.Rearrangement
import Conformance.Proofs.Weakening
import Conformance.Proofs.Agreement
import Conformance.Proofs.Malformed
import Conformance.Proofs.SpecimenMatch
import Conformance.Proofs.Budget
import Conformance.Proofs.DeclaredPart
import Conformance.Proofs.MismatchText
import Conformance.Proofs.MismatchLog
import Conformance.Proofs.FieldPresence
import Conformance.Proofs.FieldTables
import Conformance.Proofs.EarlyFailure
import Conformance.Proofs.Regrouping
import Conformance.Proofs.Misfire
import Conformance.Proofs.EqualPatterns
import Conformance.Proofs.WholeNumber
import Conformance.Proofs.Resolution
