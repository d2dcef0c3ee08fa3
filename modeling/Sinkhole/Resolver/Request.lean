import Sinkhole.Dns.Message
import Sinkhole.Net.Endpoint

/-!
# Requests

A request is what a client sent: octets that should be a message, and how and from
where they came. While it is handled, a summary collects what is worth a line in
the log.
-/

namespace Sinkhole

/-- The way a request came in. -/
inductive Arrival
  | datagram
  | stream
  deriving DecidableEq

/-- The name of a way in. -/
def Arrival.text : Arrival → String
  | .datagram => "UDP"
  | .stream => "TCP"

/-- What a client sent. -/
structure Request where
  arrival : Arrival
  client : Net.Endpoint
  octets : Array UInt8
  deriving DecidableEq

/-- The message that a request holds. -/
def Request.message (request : Request) : Except Dns.ReadError Dns.Message :=
  Dns.Message.decode request.octets

/-- What is known of a request so far. -/
structure Summary where
  requestId : Option String := none
  qname : Option Dns.Name := none
  qtype : Option Dns.RecordType := none
  blocked : Bool := false
  upstream : Option Net.Endpoint := none
  responseCode : Option Dns.ResponseCode := none
  deriving DecidableEq

end Sinkhole
