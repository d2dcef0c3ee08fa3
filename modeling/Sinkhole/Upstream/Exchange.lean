import Sinkhole.Dns.Frame
import Sinkhole.Net.ServerName
import Sinkhole.Resolver.Dispatch
import Sinkhole.Upstream.Link

/-!
# Asking an upstream

A query goes out in a datagram, over a connection, or over a secured connection.
Of the datagrams that come back, the first that is long enough for a header and is
marked as a response counts. If it is marked as truncated, the exchange is repeated
over a connection.
-/

namespace Sinkhole
namespace Upstream

open Dns

/-- How queries go to an upstream. -/
inductive Carrier
  | datagram
  | stream
  | secure (server : Net.ServerName)
  deriving DecidableEq

/-- The carrier that checks the upstream's certificate against a name. -/
def Carrier.secure? (read : Net.ServerName.Reading) (name : String) : Except Failure Carrier :=
  match read name with
  | .ok server => .ok (.secure server)
  | .error cause => .error { contexts := ["invalid tls server name: " ++ name], cause }

/-- A query as the upstream sees it. -/
inductive Sent
  | datagram (query : List UInt8)
  | stream (query : List UInt8)
  deriving DecidableEq

/-- An exchange with an upstream, and the queries that it saw. -/
structure Trip where
  result : Except Failure Message
  events : Array Log.Event := #[]
  sent : List Sent := []

/-- A trip as it concerns the resolver. -/
def Trip.exchanged (trip : Trip) : Exchanged :=
  { result := trip.result, events := trip.events }

/-- A trip that failed before anything was sent. -/
def Trip.unsent (failure : Failure) : Trip :=
  { result := .error failure }

/-- The longest datagram that is taken from an upstream. -/
def maxReceived : Nat := 4096

/-- The failure to write a query. -/
def writeFailure (error : WriteError) : Failure :=
  { cause := error.message }

/-- Read the response of an upstream. -/
def decodeResponse (octets : Array UInt8) : Except Failure Message :=
  match Message.decode octets with
  | .ok response => .ok response
  | .error error =>
      .error { contexts := ["decoding upstream response"], cause := error.message }

/-- What an exchange of octets comes to: those that came back, and those that went out, if
any did. -/
structure Octets where
  result : Except Failure (Array UInt8)
  sent : Option (List UInt8)

namespace Stream

/-- Send a query in a frame and take the body of the first frame that comes back. -/
def roundTrip (link : StreamLink) (query : List UInt8) : Octets :=
  match Frame.around? query with
  | none =>
      { result := .error {
          cause := "query too large for a stream: " ++ toString query.length }
        sent := none }
  | some frame =>
      match link.sending with
      | some trouble => { result := .error (trouble.failure "write timeout"), sent := none }
      | none =>
          { sent := some frame
            result :=
              match Frame.cut link.arriving with
              | .whole body _ => .ok body.toArray
              | .noLength => .error (link.ending.failure "read len timeout")
              | .noBody => .error (link.ending.failure "read body timeout") }

/-- Secure a connection if a name to check is given. -/
def secured
    (link : StreamLink)
    (server : Option Net.ServerName)
    (upstream : Net.Endpoint) :
    Except Failure Unit :=
  match server, link.securing with
  | none, _ | some _, none => .ok ()
  | some _, some .elapsed =>
      .error (Trouble.failure "tls handshake timeout" .elapsed)
  | some _, some (.failed reason) =>
      .error { contexts := ["tls handshake with " ++ upstream.text], cause := reason }

/-- The description of an exchange over a connection. -/
def description (server : Option Net.ServerName) (upstream : Net.Endpoint) : String :=
  (if server.isSome then "tls" else "tcp") ++ " exchange with " ++ upstream.text

/-- Ask an upstream over a connection. -/
def ask
    (link : StreamLink)
    (server : Option Net.ServerName)
    (query : Message)
    (upstream : Net.Endpoint) :
    Trip :=
  match link.connecting with
  | some trouble => .unsent (trouble.failure "tcp connect timeout")
  | none =>
      match secured link server upstream with
      | .error failure => .unsent failure
      | .ok () =>
          match query.encode with
          | .error error => .unsent (writeFailure error)
          | .ok octets =>
              let trip := roundTrip link octets.toList
              { sent := if trip.sent.isSome then [.stream octets.toList] else []
                result :=
                  match trip.result with
                  | .error failure => .error (failure.within (description server upstream))
                  | .ok response => decodeResponse response }

end Stream

namespace Datagram

/-- Whether a datagram counts as a response. -/
def isResponse (datagram : Array UInt8) : Bool :=
  headerLength ≤ datagram.size && peekResponse datagram

/-- The first datagram that counts, of those that arrive. -/
def select? (arrivals : List (Array UInt8)) : Option (Array UInt8) :=
  (arrivals.map fun datagram => datagram.extract 0 maxReceived).find? isResponse

/-- Send a query and wait for a response. -/
def roundTrip (link : DatagramLink) (query : List UInt8) : Octets :=
  match link.opening with
  | some reason => { result := .error { cause := reason }, sent := none }
  | none =>
      match link.sending with
      | some trouble => { result := .error (trouble.failure "send timeout"), sent := none }
      | none =>
          { sent := some query
            result :=
              match select? link.arrivals with
              | some response => .ok response
              | none => .error (link.ending.failure "recv timeout") }

/-- The event of a response that did not fit. -/
def retrying (upstream : Net.Endpoint) : Log.Event :=
  { level := .debug
    message := "truncated udp response, retrying over tcp"
    fields := [("nameserver", .text upstream.text)] }

/-- Ask an upstream with a datagram, and again over a connection if the response is
truncated. -/
def ask (links : Links) (query : Message) (upstream : Net.Endpoint) : Trip :=
  match query.encode with
  | .error error => .unsent (writeFailure error)
  | .ok octets =>
      let trip := roundTrip links.datagram octets.toList
      let sent := (trip.sent.map Sent.datagram).toList
      match trip.result with
      | .error failure =>
          { result := .error (failure.within ("udp exchange with " ++ upstream.text)), sent }
      | .ok response =>
          if peekTruncated response then
            let again := Stream.ask links.stream none query upstream
            { result := again.result
              events := #[retrying upstream] ++ again.events
              sent := sent ++ again.sent }
          else
            { result := decodeResponse response, sent }

end Datagram

/-- Ask an upstream. -/
def ask (carrier : Carrier) (links : Links) (query : Message) (upstream : Net.Endpoint) : Trip :=
  match carrier with
  | .datagram => Datagram.ask links query upstream
  | .stream => Stream.ask links.stream none query upstream
  | .secure server => Stream.ask links.stream (some server) query upstream

/-- The resolver's way of asking, over links that depend on the upstream. -/
def exchange (carrier : Carrier) (links : Net.Endpoint → Links) : Exchange :=
  fun query upstream => (ask carrier (links upstream) query upstream).exchanged

end Upstream
end Sinkhole
