import BoundedRegex.Memory.Holdings
import BoundedRegex.Memory.Tenancy
import BoundedRegex.Session
import BoundedRegex.Proofs.Fresh
import BoundedRegex.Proofs.Account
import BoundedRegex.Proofs.Workshop
import BoundedRegex.Proofs.Recorded
import BoundedRegex.Proofs.Heap
import BoundedRegex.Proofs.Counted
import BoundedRegex.Proofs.Ownership
import BoundedRegex.Proofs.Backtracking
import BoundedRegex.Proofs.InUse
import BoundedRegex.Proofs.Limit
import BoundedRegex.Proofs.Exhaustion
import BoundedRegex.Proofs.Decoding
import BoundedRegex.Proofs.Searches
import BoundedRegex.Proofs.Projection
import BoundedRegex.Proofs.Contract
import BoundedRegex.Proofs.Compliance
import BoundedRegex.Proofs.Oblivious
import BoundedRegex.Proofs.Isolation
import BoundedRegex.Proofs.Lockstep
import BoundedRegex.Proofs.Simulation
import BoundedRegex.Proofs.DepthLimits
import BoundedRegex.Proofs.Levels
import BoundedRegex.Proofs.Reading
import BoundedRegex.Proofs.Events
import BoundedRegex.Proofs.Reports
import BoundedRegex.Proofs.Sites
import BoundedRegex.Proofs.Transparency
import BoundedRegex.Proofs.Writing
import BoundedRegex.Proofs.Counters
import BoundedRegex.Proofs.Budget
import BoundedRegex.Proofs.Direct
import BoundedRegex.Proofs.Matches
import BoundedRegex.Proofs.GroupNumbers
import BoundedRegex.Proofs.Vectors
import BoundedRegex.Proofs.Lossless
import BoundedRegex.Proofs.Marks
import BoundedRegex.Proofs.Captures
import BoundedRegex.Proofs.Offsets
import BoundedRegex.Proofs.Appearance
import BoundedRegex.Engine.OptionWord
import BoundedRegex.Proofs.OptionWord
import BoundedRegex.Engine.Message
import BoundedRegex.Proofs.Message
import BoundedRegex.Engine.MatchContext
import BoundedRegex.Proofs.Metered
import BoundedRegex.Proofs.Frames
import BoundedRegex.Proofs.Charges
import BoundedRegex.Proofs.Metering
