import OnionPhone.Lib.Octets
import OnionPhone.Lib.Proc
import OnionPhone.Lib.Link
import OnionPhone.Lib.Method
import OnionPhone.Common
import OnionPhone.ProtocolUtils
import OnionPhone.KeyExchange
import OnionPhone.MainProtocol
import OnionPhone.App
import OnionPhone.Attack
import OnionPhone.CallHandler
import OnionPhone.Assignments
import OnionPhone.Exceptions
import OnionPhone.FailedCall
import OnionPhone.Isolation
import OnionPhone.KeepAlive
import OnionPhone.Lib.Stream
import OnionPhone.Media
import OnionPhone.OneCall
import OnionPhone.Replay
import OnionPhone.EndOfStream
import OnionPhone.Handshake
import OnionPhone.Lib.Along
import OnionPhone.Malformed
import OnionPhone.NextCall
import OnionPhone.PacketBuffer
import OnionPhone.Playback
import OnionPhone.SessionFlag
import OnionPhone.Native.SimpleRtp
import OnionPhone.Framing
import OnionPhone.Forwarding
import OnionPhone.Listener
import OnionPhone.CodecLife
import OnionPhone.Lib.Loop
import OnionPhone.AudioWorker
import OnionPhone.AudioDevice
import OnionPhone.HandlerState
import OnionPhone.HandlerView
import OnionPhone.Pipes
import OnionPhone.ServiceLocator
import OnionPhone.BoundServices
import OnionPhone.LiveMedia
import OnionPhone.Conversation
import OnionPhone.Native.Codec2Bits
