import PlasmaStream.Basic
import PlasmaStream.Wire
import PlasmaStream.Request
import PlasmaStream.RequestCodec
import PlasmaStream.Errors
import PlasmaStream.Coordination
import PlasmaStream.Plasma
import PlasmaStream.Receiver
import PlasmaStream.Rollback
import PlasmaStream.Sender
import PlasmaStream.Transfer
import PlasmaStream.Dispatcher
import PlasmaStream.Handler
import PlasmaStream.Independence
import PlasmaStream.Conc
import PlasmaStream.Tasks
import PlasmaStream.Exchange
import PlasmaStream.Footprint
import PlasmaStream.Isolation
import PlasmaStream.Buffer
import PlasmaStream.Listener
