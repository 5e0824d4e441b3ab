import Entitlement.Exposition
import Entitlement.Fleet
import Entitlement.Index.Link
import Entitlement.Main
import Entitlement.Model
import Entitlement.Proofs.Backend
import Entitlement.Proofs.Batches
import Entitlement.Proofs.Broadcast
import Entitlement.Proofs.CatchUp
import Entitlement.Proofs.Exactness
import Entitlement.Proofs.Isolation
import Entitlement.Proofs.OneAnswer
import Entitlement.Proofs.OwnWrites
import Entitlement.Proofs.Registration
import Entitlement.Proofs.Truthfulness
import Entitlement.Proofs.Administrator
import Entitlement.Proofs.WrittenForm
import Entitlement.Proofs.Outcome
import Entitlement.Proofs.Rounds
import Entitlement.Proofs.Starvation
import Entitlement.Proofs.Founding
import Entitlement.Proofs.Layers
import Entitlement.Proofs.Rollback
import Entitlement.Proofs.LastWrite
import Entitlement.Proofs.Rearrangement
import Entitlement.Proofs.Listing
import Entitlement.Proofs.Paging
import Entitlement.Proofs.Echo
