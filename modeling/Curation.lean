import Curation.Api.Service
import Curation.Check.Declared
import Curation.Proofs.Cache.Claims
import Curation.Proofs.Cache.Expiry
import Curation.Proofs.Cache.Fallback
import Curation.Proofs.Cache.Operations
import Curation.Proofs.Chain.Addresses
import Curation.Proofs.Chain.Words
import Curation.Proofs.Check.Acceptance
import Curation.Proofs.Check.Amounts
import Curation.Proofs.Check.Caching
import Curation.Proofs.Check.Chains
import Curation.Proofs.Check.Domains
import Curation.Proofs.Check.Endpoint
import Curation.Proofs.Check.Gating
import Curation.Proofs.Check.Looking
import Curation.Proofs.Check.Minimums
import Curation.Proofs.Check.Numbers
import Curation.Proofs.Check.Ranges
import Curation.Proofs.Check.Searching
import Curation.Proofs.Check.Simulation
import Curation.Proofs.Evaluation.Progress
import Curation.Proofs.Evaluation.Relabel
import Curation.Proofs.Evaluation.Schedule
import Curation.Proofs.Evaluation.Soundness
import Curation.Proofs.Intake.Elsewhere
import Curation.Proofs.Intake.GivingUp
import Curation.Proofs.Intake.Inactive
import Curation.Proofs.Intake.LateFailure
import Curation.Proofs.Intake.Meeting
import Curation.Proofs.Intake.Mutes
import Curation.Proofs.Intake.Once
import Curation.Proofs.Intake.Owners
import Curation.Proofs.Intake.Reconfiguring
import Curation.Proofs.Intake.Recording
import Curation.Proofs.Intake.Retry
import Curation.Proofs.Intake.Rows
import Curation.Proofs.Intake.SlowMode
import Curation.Proofs.Moderation.Answering
import Curation.Proofs.Moderation.Approval
import Curation.Proofs.Moderation.Bypassing
import Curation.Proofs.Moderation.Changes
import Curation.Proofs.Moderation.Feasibility
import Curation.Proofs.Moderation.Gates
import Curation.Proofs.Moderation.Hollow
import Curation.Proofs.Moderation.Inviting
import Curation.Proofs.Moderation.Justification
import Curation.Proofs.Moderation.LatestRuling
import Curation.Proofs.Moderation.Questions
import Curation.Proofs.Moderation.Repeating
import Curation.Proofs.Moderation.Serving
import Curation.Proofs.Moderation.Suspensions
import Curation.Proofs.Moderation.SwitchedOff
import Curation.Proofs.Moderation.Units
import Curation.Proofs.Number.Numerals
import Curation.Proofs.Number.Order
import Curation.Proofs.Program.Runs
import Curation.Proofs.Rehearsal.LaterFaults
import Curation.Proofs.Rehearsal.Laziness
import Curation.Proofs.Rehearsal.Orders
import Curation.Proofs.Rehearsal.Pending
import Curation.Proofs.Rehearsal.Permits
import Curation.Proofs.Rehearsal.Sessions
import Curation.Proofs.Rehearsal.Simulation
import Curation.Proofs.Rehearsal.Sparing
import Curation.Proofs.Rehearsal.Strategies
import Curation.Proofs.Rehearsal.Traffic
import Curation.Proofs.Rehearsal.Untouched
import Curation.Proofs.Remote.Breaking
import Curation.Proofs.Remote.CallData
import Curation.Proofs.Remote.Reading
import Curation.Proofs.Rule.Grammar
import Curation.Proofs.Rule.RoundTrip
import Curation.Proofs.Store.BypassLists
import Curation.Proofs.Store.Configurations
import Curation.Rehearsal.Moderating
import Curation.Rehearsal.Script
import Curation.Store.Display
import Curation.Time.Iso
