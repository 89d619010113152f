import Contactless.Abort
import Contactless.Bench.Probe
import Contactless.Dep.Initiator
import Contactless.Dep.Target
import Contactless.Device.Selection
import Contactless.Emulation.Type2
import Contactless.Felica.Card
import Contactless.Jewel.Tag
import Contactless.Loopback.Schedule
import Contactless.Proofs.Bench
import Contactless.Proofs.Crc.Division
import Contactless.Proofs.Dep.Conversation
import Contactless.Proofs.Dep.Delivery
import Contactless.Proofs.Dep.Dispatch
import Contactless.Proofs.Dep.Duplex
import Contactless.Proofs.Dep.Faithful
import Contactless.Proofs.Dep.Introduction
import Contactless.Proofs.Dep.Link
import Contactless.Proofs.Dep.Loss
import Contactless.Proofs.Dep.Reassembly
import Contactless.Proofs.Dep.Reception
import Contactless.Proofs.Emulation.Dispatch
import Contactless.Proofs.Emulation.Memory
import Contactless.Proofs.Emulation.Reader
import Contactless.Proofs.Felica.Reading
import Contactless.Proofs.Initiator.Framing
import Contactless.Proofs.Initiator.Polling
import Contactless.Proofs.Initiator.Restoring
import Contactless.Proofs.Initiator.Silence
import Contactless.Proofs.Jewel.Restoring
import Contactless.Proofs.Loopback.Listing
import Contactless.Proofs.Relay.Codec
import Contactless.Proofs.Relay.Descriptor
import Contactless.Proofs.Relay.Interleaving
import Contactless.Proofs.Relay.Sizes
import Contactless.Proofs.Relay.Traffic
import Contactless.Proofs.Text.Respelling
import Contactless.Proofs.TypeA.Activated
import Contactless.Proofs.TypeA.Activation
import Contactless.Proofs.TypeA.Backdoor
import Contactless.Proofs.TypeA.Direct
import Contactless.Proofs.TypeA.Release
import Contactless.Proofs.TypeA.Writing
import Contactless.Proofs.TypeB.Writing
import Contactless.Relay.Half
import Contactless.Relay.Session
import Contactless.Script.Session
import Contactless.Text.HexReading
import Contactless.TypeA.Magic
import Contactless.TypeB.SrxTag
