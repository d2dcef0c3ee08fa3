import Sinkhole.Server.Handle

/-!
# Serving datagrams

A request comes in one datagram and its reply goes out in one. A reply longer than
every client accepts is replaced by its truncated form.
-/

namespace Sinkhole
namespace Server

open Dns

/-- The longest datagram that is taken from a client. -/
def maxRequest : Nat := 4096

/-- The request in a datagram. What is too long is cut off. -/
def datagramRequest (client : Net.Endpoint) (datagram : Array UInt8) : Request :=
  { arrival := .datagram, client, octets := datagram.extract 0 maxRequest }

/-- The event of a reply that does not fit. -/
def truncating (client : Net.Endpoint) (size : Nat) : Log.Event :=
  { level := .debug
    message := "response too large for udp, truncating"
    fields := [("client", .text client.text), ("size", .number size)] }

/-- The octets that are sent for a reply, and what there is to log. -/
def datagramReply
    (client : Net.Endpoint)
    (reply : Message) :
    Except WriteError (Array UInt8) × Array Log.Event :=
  match reply.encode with
  | .error error => (.error error, #[])
  | .ok octets =>
      if octets.size ≤ maxDatagramLength then
        (.ok octets, #[])
      else
        (reply.truncated.encode, #[truncating client octets.size])

/-- The event of a reply that could not be sent. -/
def sendFailed (client : Net.Endpoint) (error : WriteError) : Log.Event :=
  { level := .warn
    message :=
      "Failed to write response to client " ++ client.text ++ ": " ++ error.message }

/-- What serving a datagram comes to: the datagram that goes back, if one does, and
all that there is to log. -/
structure DatagramServed where
  sent : Option (Array UInt8)
  events : Array Log.Event

/-- Send the reply to a handled request. -/
def sendDatagram (client : Net.Endpoint) (handled : Handled) : DatagramServed :=
  match handled.reply with
  | none => { sent := none, events := handled.events }
  | some reply =>
      match datagramReply client reply with
      | (.ok octets, events) => { sent := some octets, events := handled.events ++ events }
      | (.error error, events) =>
          { sent := none
            events := (handled.events ++ events).push (sendFailed client error) }

end Server
end Sinkhole
