import Minghe.Lib.Net
import Minghe.Lib.Utf8

/-!
# Signalling transports

Model of `transport.rs`. A sink is where the server sends to a peer: the channel of a TLS connection,
known by a number, or a UDP address. Whether a send succeeds is up to the peer and the network, so it
is an input where a sink is used.
-/

namespace Minghe.Sip

open Minghe.Lib

/-- `Transport`. -/
inductive Transport where
  | tls
  | udp
  deriving DecidableEq, Repr

/-- `via_token`. -/
def Transport.viaToken : Transport → Str
  | .tls => "TLS".toList
  | .udp => "UDP".toList

/-- `uri_param`. -/
def Transport.uriParam : Transport → Str
  | .tls => "tls".toList
  | .udp => "udp".toList

/-- `ConnectionSink`. -/
inductive ConnectionSink where
  | stream (channel : Nat)
  | udp (peer : SocketAddr)
  deriving DecidableEq, Repr

/-- `ConnectionSink::transport`. -/
def ConnectionSink.transport : ConnectionSink → Transport
  | .stream _ => .tls
  | .udp _ => .udp

end Minghe.Sip
