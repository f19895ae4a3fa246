import Narration.Config.Loading
import Narration.Fields
import Narration.Json.Fragment
import Narration.Json.Settings
import Narration.Logging.Setup
import Narration.Proofs.Acceptance
import Narration.Proofs.Accounting
import Narration.Proofs.Agreement
import Narration.Proofs.Announcement
import Narration.Proofs.Ascending
import Narration.Proofs.Canonical
import Narration.Proofs.Certificate
import Narration.Proofs.Convention
import Narration.Proofs.Decoding
import Narration.Proofs.Eagerness
import Narration.Proofs.Enclosure
import Narration.Proofs.Forgetting
import Narration.Proofs.Gains
import Narration.Proofs.History
import Narration.Proofs.Isolation
import Narration.Proofs.LastValue
import Narration.Proofs.LastWrite
import Narration.Proofs.Layering
import Narration.Proofs.Lexemes
import Narration.Proofs.Likeness
import Narration.Proofs.Loading
import Narration.Proofs.LogSetup
import Narration.Proofs.Location
import Narration.Proofs.Naming
import Narration.Proofs.Proposals
import Narration.Proofs.Recency
import Narration.Proofs.RoundTrip
import Narration.Proofs.Rounds
import Narration.Proofs.Runs
import Narration.Proofs.Silence
import Narration.Proofs.Spacing
import Narration.Proofs.Suppression
import Narration.Proofs.Sweep
import Narration.Proofs.Throttle
import Narration.Proofs.Wrapping
import Narration.Script
