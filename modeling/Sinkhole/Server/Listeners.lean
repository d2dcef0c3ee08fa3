import Sinkhole.Log.Event
import Sinkhole.Net.Endpoint
import Sinkhole.Resolver.Request

/-!
# Listeners

A server listens for datagrams, for connections, or for both, on one address. The
listeners are set up in this order, and the first that cannot be ends the server.
-/

namespace Sinkhole
namespace Server

/-- Where a server listens. -/
structure Listeners where
  address : Net.Address
  datagramPort : Option UInt16 := none
  streamPort : Option UInt16 := none
  deriving DecidableEq

/-- Why a server cannot run. -/
inductive RunError
  | noPort
  | cannotListen (reason : String)
  deriving DecidableEq

/-- The report of a server that cannot run. -/
def RunError.message : RunError → String
  | .noPort => "no udp or tcp port configured"
  | .cannotListen reason => reason

namespace Listeners

/-- The endpoints to listen on, in order. -/
def endpoints (listeners : Listeners) : List (Arrival × Net.Endpoint) :=
  let at? (arrival : Arrival) (port : Option UInt16) : List (Arrival × Net.Endpoint) :=
    (port.map fun port => (arrival, { address := listeners.address, port })).toList
  at? .datagram listeners.datagramPort ++ at? .stream listeners.streamPort

/-- The event of a listener that is set up. -/
def listening (arrival : Arrival) (endpoint : Net.Endpoint) : Log.Event :=
  { level := .info, message := arrival.text ++ " listening on " ++ endpoint.text }

/-- Set up listeners. Whether one can be is for the system to say, which gives a
reason if it cannot. -/
def setUp
    (refusal : Arrival → Net.Endpoint → Option String) :
    List (Arrival × Net.Endpoint) → Except RunError Unit × Array Log.Event
  | [] => (.ok (), #[])
  | (arrival, endpoint) :: rest =>
      match refusal arrival endpoint with
      | some reason => (.error (.cannotListen reason), #[])
      | none =>
          let (result, events) := setUp refusal rest
          (result, #[listening arrival endpoint] ++ events)

/-- Start a server. -/
def start
    (refusal : Arrival → Net.Endpoint → Option String)
    (listeners : Listeners) :
    Except RunError Unit × Array Log.Event :=
  if listeners.endpoints = [] then (.error .noPort, #[])
  else setUp refusal listeners.endpoints

end Listeners
end Server
end Sinkhole
