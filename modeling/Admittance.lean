import Admittance.Json.Value
import Admittance.Main
import Admittance.Proofs.Chronicle
import Admittance.Proofs.Connection
import Admittance.Proofs.Credit
import Admittance.Proofs.Finality
import Admittance.Proofs.Refusal
import Admittance.Proofs.Serializability
import Admittance.Proofs.Soundness
import Admittance.Proofs.Uniqueness
import Admittance.Scenario.Run
import Admittance.Proofs.History
import Admittance.Proofs.Expiry
import Admittance.Proofs.Alike
import Admittance.Proofs.OrderIndependence
import Admittance.Proofs.Spelling
import Admittance.Proofs.Reading
import Admittance.Proofs.RoundTrip
import Admittance.Proofs.Course
import Admittance.Proofs.Announcement
import Admittance.Proofs.Rest
import Admittance.Proofs.Timetable
import Admittance.Proofs.StartStop
import Admittance.Proofs.Overlap
import Admittance.Proofs.Outlet
import Admittance.Proofs.Redaction
import Admittance.Proofs.Confidentiality
import Admittance.Proofs.Admission
import Admittance.Proofs.SinkPairing
import Admittance.Proofs.SinkIndependence
import Admittance.Proofs.Decision
import Admittance.Proofs.Dismissal
import Admittance.Proofs.Audience
import Admittance.Proofs.Panic
import Admittance.Proofs.Landing
import Admittance.Proofs.Commutation
import Admittance.Proofs.Presentation
