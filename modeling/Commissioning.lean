import Commissioning.Main
import Commissioning.Rehearsal
import Commissioning.Proofs.Config.Written
import Commissioning.Proofs.Credentials
import Commissioning.Proofs.Delivery
import Commissioning.Proofs.Downloader.Command
import Commissioning.Proofs.Downloader.Interleaving
import Commissioning.Proofs.Feature.Order
import Commissioning.Proofs.Feature.Owners
import Commissioning.Proofs.Feature.Registry
import Commissioning.Proofs.Filing
import Commissioning.Proofs.Forgiving
import Commissioning.Proofs.Installation.Ids
import Commissioning.Proofs.Overriding
import Commissioning.Proofs.Password
import Commissioning.Proofs.Payload
import Commissioning.Proofs.Protocol.Accepted
import Commissioning.Proofs.Protocol.Id
import Commissioning.Proofs.Protocol.Typed
import Commissioning.Proofs.Saving
import Commissioning.Proofs.Setup
import Commissioning.Proofs.Wizard.Counter
import Commissioning.Proofs.Wizard.Replay
import Commissioning.Proofs.Wizard.Trail
import Commissioning.Proofs.Wizard.Visits
