import Kv4p.Messages
import Kv4p.Library.Effect
import Kv4p.Library.LastWrite
import Kv4p.Library.Transition
import Kv4p.Kiss
import Kv4p.KissStream
import Kv4p.FlowControl
import Kv4p.Radio
import Kv4p.RadioSteps
import Kv4p.DummyTransport
import Kv4p.HandOffOrder
import Kv4p.Handshake
import Kv4p.PttRelease
import Kv4p.SequenceRange
import Kv4p.SetterAtomicity
import Kv4p.SettingsHistory
import Kv4p.RadioThreads
import Kv4p.CallbackIsolation
import Kv4p.CreditThreads
import Kv4p.NotReady
import Kv4p.ReceivePath
import Kv4p.SequenceFreshness
import Kv4p.Sessions
import Kv4p.WireRoundTrip
import Kv4p.CreditLedger
import Kv4p.HelloCodec
import Kv4p.KeyedOnRequest
import Kv4p.Reencoding
import Kv4p.HostMessages
import Kv4p.Library.CriticalSection
import Kv4p.PropertyReads
import Kv4p.Scripts
import Kv4p.SerialSessions
import Kv4p.SerialWrites
import Kv4p.StreamReception
import Kv4p.TunedStates
import Kv4p.ControlLines
import Kv4p.Resynchronization
import Kv4p.TransportFailure
import Kv4p.SharedLine
import Kv4p.LockOrder
