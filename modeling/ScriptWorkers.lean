import ScriptWorkers.Main
import ScriptWorkers.Mixed
import ScriptWorkers.Proofs.Bookkeeping
import ScriptWorkers.Proofs.Delivery
import ScriptWorkers.Proofs.Intervals
import ScriptWorkers.Proofs.RoundTrip
import ScriptWorkers.Proofs.Standoff.Ends
import ScriptWorkers.Proofs.Traffic.Safety
import ScriptWorkers.Proofs.Clock
import ScriptWorkers.Proofs.Refusals.Operations
import ScriptWorkers.Proofs.Commuting
import ScriptWorkers.Proofs.Reports
import ScriptWorkers.Proofs.Idleness
import ScriptWorkers.Proofs.Timing.Numbers
import ScriptWorkers.Proofs.Shutdown
import ScriptWorkers.Proofs.Timing.Turns
import ScriptWorkers.Proofs.Cloning.Posting
import ScriptWorkers.Proofs.Recognition
import ScriptWorkers.Proofs.Counting
import ScriptWorkers.Proofs.WholeDoubles
