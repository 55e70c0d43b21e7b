import ResourceContainers.Files.Session
import ResourceContainers.Main
import ResourceContainers.Proofs.Files.LockRange
import ResourceContainers.Proofs.Interleaving.Completion
import ResourceContainers.Proofs.Interleaving.Lifecycle
import ResourceContainers.Proofs.Interleaving.PollBinding
import ResourceContainers.Proofs.Io.FailureCounters
import ResourceContainers.Proofs.Io.Transparency
import ResourceContainers.Proofs.Lexical.Bodies
import ResourceContainers.Proofs.OneShot
import ResourceContainers.Script.Run
import ResourceContainers.Proofs.Interleaving.Refusals
import ResourceContainers.Proofs.Registration.Entries
import ResourceContainers.Proofs.Registration.System
import ResourceContainers.Proofs.Registration.History
import ResourceContainers.Proofs.Registration.Enumeration
import ResourceContainers.Proofs.Registration.Identity
import ResourceContainers.Proofs.Interleaving.Family
import ResourceContainers.Proofs.Interleaving.Heirs
import ResourceContainers.Proofs.Interleaving.Descendants
import ResourceContainers.Proofs.Limits.Overlay
import ResourceContainers.Proofs.Interleaving.Updating
import ResourceContainers.Proofs.Interleaving.Units
import ResourceContainers.Proofs.Stored.RoundTrip
import ResourceContainers.Proofs.Stored.Presentation
import ResourceContainers.Proofs.Registration.Size
import ResourceContainers.Proofs.Files.Interruptions
import ResourceContainers.Proofs.Files.Submissions
import ResourceContainers.Proofs.Files.Vectored
import ResourceContainers.Proofs.Io.Lending
import ResourceContainers.Proofs.Interleaving.Views
import ResourceContainers.Proofs.Interleaving.Fading
import ResourceContainers.Proofs.Io.StartingAgain
import ResourceContainers.Proofs.Io.Ratios
import ResourceContainers.Proofs.Io.Accumulation
import ResourceContainers.Proofs.Interleaving.Metering
