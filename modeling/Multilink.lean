import Multilink.Cluster
import Multilink.Command.Run
import Multilink.FileTree
import Multilink.Main
import Multilink.Network
import Multilink.Proofs.Alignments
import Multilink.Proofs.Atomicity
import Multilink.Proofs.AwakeWindows
import Multilink.Proofs.Bursts
import Multilink.Proofs.BusDelivery
import Multilink.Proofs.Conservation
import Multilink.Proofs.Construction
import Multilink.Proofs.ConversationMap
import Multilink.Proofs.Damage
import Multilink.Proofs.Envelopes
import Multilink.Proofs.Extensions
import Multilink.Proofs.Identities
import Multilink.Proofs.InjectedDamage
import Multilink.Proofs.Intake
import Multilink.Proofs.Introductions
import Multilink.Proofs.LinkOrder
import Multilink.Proofs.Lookups
import Multilink.Proofs.Membership
import Multilink.Proofs.MuteHandshakes
import Multilink.Proofs.NameClashes
import Multilink.Proofs.Numbering
import Multilink.Proofs.Orphans
import Multilink.Proofs.Pair
import Multilink.Proofs.Promise
import Multilink.Proofs.Provisioning
import Multilink.Proofs.Receipts
import Multilink.Proofs.Relations
import Multilink.Proofs.Scorings
import Multilink.Proofs.Selection
import Multilink.Proofs.Sensitivity
import Multilink.Proofs.Shutdown
import Multilink.Proofs.SleepReports
import Multilink.Proofs.Slots
import Multilink.Proofs.Splitting
import Multilink.Proofs.Stops
import Multilink.Proofs.Storms
import Multilink.WorkQueue.Quiet
import Multilink.WorkQueue.Trial
