import ResumableStreams.Machine.Recipe
import ResumableStreams.Main
import ResumableStreams.Proofs.Driving
import ResumableStreams.Proofs.Supply
import ResumableStreams.Proofs.Exactness
import ResumableStreams.Proofs.Completeness
import ResumableStreams.Proofs.Acceptance
import ResumableStreams.Proofs.Conservation
import ResumableStreams.Proofs.Hesitation
import ResumableStreams.Proofs.Delivery
import ResumableStreams.Proofs.Independence
import ResumableStreams.Proofs.Copying
import ResumableStreams.Proofs.Persistence
import ResumableStreams.Proofs.Release
import ResumableStreams.Proofs.Twins
import ResumableStreams.Proofs.Breakdown
import ResumableStreams.Proofs.Reopening
import ResumableStreams.Proofs.RoundTrip
import ResumableStreams.Proofs.Modes
import ResumableStreams.Proofs.Refusal
import ResumableStreams.Proofs.Excess
import ResumableStreams.Proofs.Succession
import ResumableStreams.Proofs.Endurance
import ResumableStreams.Proofs.Economy
import ResumableStreams.Proofs.Renewal
import ResumableStreams.Proofs.Keeping
import ResumableStreams.Proofs.Staleness
import ResumableStreams.Proofs.Transparency
import ResumableStreams.Proofs.Conduct
import ResumableStreams.Proofs.Closing
import ResumableStreams.Proofs.Handover
import ResumableStreams.Proofs.Ownership
import ResumableStreams.Proofs.Loan
