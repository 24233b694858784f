import Radius.Attribute.Dictionary
import Radius.Control.Client
import Radius.Control.History
import Radius.Exchange.Testbed
import Radius.Main
import Radius.Packet.Edit
import Radius.Proofs.Attribute.Reading
import Radius.Proofs.Control.Atomicity
import Radius.Proofs.Control.Ledger
import Radius.Proofs.Control.Restart
import Radius.Proofs.Exchange.Corruption
import Radius.Proofs.Exchange.Escape
import Radius.Proofs.Exchange.Timeout
import Radius.Proofs.Packet.Insertion
import Radius.Proofs.Packet.StoredPassword
import Radius.Proofs.Packet.TypedAttributes
import Radius.Proofs.Password.Blocks
import Radius.Proofs.Simulator.Credentials
import Radius.Proofs.Simulator.Independence
import Radius.Proofs.Simulator.Mismatch
import Radius.Proofs.Simulator.Silence
import Radius.Proofs.Simulator.Survival
