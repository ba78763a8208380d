import Nakama.Refinement.Payees
import Nakama.Properties.Conservation
import Nakama.Refinement.Metering
import Nakama.Properties.Settlement
import Nakama.Properties.States
import Nakama.Properties.Authority
import Nakama.Properties.Sessions
import Nakama.Refinement.Faults
import Nakama.Properties.Arithmetic
import Nakama.Refinement.Availability
import Nakama.Properties.Cancellation
import Nakama.Properties.Drain
import Nakama.Lib.Meter
import Nakama.Refinement.Schedule
import Nakama.Properties.Schedule
import Nakama.Refinement.Delay
import Nakama.Refinement.Suspension
import Nakama.Properties.Pausing
import Nakama.Properties.Recovery
import Nakama.Properties.Tally
import Nakama.Properties.Exit
import Nakama.Properties.Freeze
import Nakama.Client.Accounts
import Nakama.Client.Sessions
import Nakama.Properties.Codec
import Nakama.Client.Status
import Nakama.Properties.StatusMirror
import Nakama.Properties.Keeper
import Nakama.Properties.Runway
import Nakama.Client.Composite
import Nakama.Refinement.Composition
import Nakama.Properties.Resubscribe
import Nakama.Properties.ChangeRate
import Nakama.Properties.Hint
import Nakama.Lib.Footprint
import Nakama.Program.Metas
import Nakama.Refinement.Locality
import Nakama.Properties.Scheduling
import Nakama.Refinement.Batch
import Nakama.Properties.Batches
import Nakama.Properties.Replay
import Nakama.Properties.Arrears
import Nakama.Facilitator.Handlers
import Nakama.Facilitator.System
import Nakama.Facilitator.Safety
import Nakama.Properties.Facilitator
import Nakama.Properties.Races
import Nakama.Client.TypeScriptComposite
import Nakama.Properties.Clients
import Nakama.Properties.Containment
import Nakama.Client.Pda
import Nakama.Properties.Addresses
