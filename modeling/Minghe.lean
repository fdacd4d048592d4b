import Minghe.Lib.Bytes
import Minghe.Lib.CounterMode
import Minghe.Lib.Table
import Minghe.Lib.Fault
import Minghe.Lib.Net
import Minghe.Lib.Run
import Minghe.Lib.FixedWindow
import Minghe.Lib.Interleaving
import Minghe.Lib.Search
import Minghe.Lib.Framing
import Minghe.Lib.Utf8
import Minghe.Lib.CaseMap
import Minghe.Lib.Text
import Minghe.Lib.Lines
import Minghe.Lib.Fields
import Minghe.Lib.NoCase
import Minghe.Lib.Base64
import Minghe.Media.Relay
import Minghe.Media.PortRange
import Minghe.Media.Srtp.Index
import Minghe.Media.Srtp.Suite
import Minghe.Media.Srtp.RoundTrip
import Minghe.Media.Srtp.Schedule
import Minghe.Media.Srtp.Reorder
import Minghe.Media.Srtp.Keystream
import Minghe.Media.Srtp.Packets
import Minghe.Media.Srtp.Gap
import Minghe.Media.RunRelay
import Minghe.Media.Transparent
import Minghe.Sip.Parser
import Minghe.Sip.Brackets
import Minghe.Sip.Parameters
import Minghe.Sip.Bodies
import Minghe.Sip.Framing
import Minghe.Sip.Transport
import Minghe.Sip.Outbound
import Minghe.Sip.Forwarded
import Minghe.Sip.Length
import Minghe.Sip.OneMessage
import Minghe.Sip.OutboundLaw
import Minghe.Sip.Responses
import Minghe.Sip.Digest
import Minghe.Sip.Authorization
import Minghe.Sip.Registrar
import Minghe.Sip.Registered
import Minghe.Sip.Replay
import Minghe.Sip.Lifetimes
import Minghe.Sip.Spellings
import Minghe.Lib.Contents
import Minghe.Sip.Message
import Minghe.Sip.Traced
import Minghe.Sip.Delivered
import Minghe.Sip.Places
import Minghe.Sip.Sender
import Minghe.Sip.Identity
import Minghe.Sip.Queues
import Minghe.Sip.Arrival
import Minghe.Sip.Caps
import Minghe.Sip.Server
import Minghe.Sip.KeepAlives
import Minghe.Sip.Limit
import Minghe.Sip.Connections
import Minghe.Sip.Routing
import Minghe.Sip.Stranded
import Minghe.Sip.Presence
import Minghe.Sip.Earned
import Minghe.Sip.Session
import Minghe.Media.Srtp.Sdes
import Minghe.Sip.Sdp
import Minghe.Sip.Answer
import Minghe.Sip.ForwardedResponse
import Minghe.Sip.Rewriting
import Minghe.Sip.SdpLaw
import Minghe.Sip.Rtpmaps
import Minghe.Sip.AudioAddr
import Minghe.Sip.Offers
import Minghe.Sip.Router
import Minghe.Sip.Blocking
import Minghe.Sip.Locks
import Minghe.Sip.Calls
import Minghe.Sip.Leaks
import Minghe.Sip.Entries
import Minghe.Sip.Byes
import Minghe.Sip.Failures
import Minghe.Sip.States
import Minghe.Sip.Secured
import Minghe.Sip.Finals
import Minghe.Sip.Agreement
import Minghe.Sip.Outsiders
import Minghe.Sip.Sections
import Minghe.Sip.Retransmit
import Minghe.Sip.System
import Minghe.Sip.Components
import Minghe.Sip.Authentic
import Minghe.Sip.Confined
import Minghe.Sip.Jobs
import Minghe.Sip.Served
import Minghe.Sip.Advertised
import Minghe.Sip.Heard
import Minghe.Sip.Ports
import Minghe.Sip.Handshake
import Minghe.Config
import Minghe.Tls
import Minghe.Main
