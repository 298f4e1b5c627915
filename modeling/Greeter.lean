import Greeter.Bus
import Greeter.Protocol
import Greeter.Greeting
import Greeter.Alternator
import Greeter.Panel
import Greeter.Session
import Greeter.Proofs.Panel
import Greeter.Proofs.Parity
import Greeter.Proofs.Alternator
import Greeter.Proofs.WireTrace
import Greeter.Proofs.Devices
import Greeter.Proofs.CallProtocol
import Greeter.Proofs.MessageText
import Greeter.Proofs.WireFormat
import Greeter.Proofs.Handshake
