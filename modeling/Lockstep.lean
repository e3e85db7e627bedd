import Lockstep.Main
import Lockstep.World
import Lockstep.Proofs.LossTolerance
import Lockstep.Proofs.AllOrNothing
import Lockstep.Proofs.Isolation
import Lockstep.Proofs.Reception
import Lockstep.Proofs.Delivery
import Lockstep.Proofs.RoundTrip
import Lockstep.Proofs.WireFormat
import Lockstep.Proofs.LineEnds
import Lockstep.Proofs.Accounts
import Lockstep.Proofs.Precedence
import Lockstep.Proofs.Twins
import Lockstep.Proofs.Tenancy
import Lockstep.Proofs.Usage
import Lockstep.Proofs.Retirement
import Lockstep.Proofs.Shutdown
import Lockstep.Proofs.Courtesy
import Lockstep.Proofs.Refusals
import Lockstep.Proofs.Encounters
import Lockstep.Proofs.Lookups
import Lockstep.Proofs.Beginnings
import Lockstep.Proofs.Occasions
import Lockstep.Proofs.Hosting
import Lockstep.Proofs.Neighbours
import Lockstep.Proofs.Disavowals
import Lockstep.Proofs.Routing
import Lockstep.Proofs.Downloads
import Lockstep.Proofs.Targets
import Lockstep.Proofs.TextForms
import Lockstep.Proofs.Patches
import Lockstep.Proofs.RequestFields
import Lockstep.Proofs.Admittance
import Lockstep.Proofs.Patience
import Lockstep.Proofs.Transmissions
import Lockstep.Proofs.Window
import Lockstep.Proofs.Siblings
