import Sinkhole.Dns.Frame
import Sinkhole.Server.Handle
import Sinkhole.Upstream.Link

/-!
# Serving a stream

Requests come in frames on one connection, and each reply goes out in a frame
before the next request is taken. A request without a reply is passed over. The
connection ends when the client ends it between two frames or is silent there for
too long. It fails when either happens within a frame, when it cannot be read any
more, and when a reply cannot be written.

How a request is answered is a parameter, and so is the state that answering it
reads and changes.
-/

namespace Sinkhole
namespace Server

open Dns

/-- How the client's side of a connection ends: the client ends it, or says nothing for
too long, or it cannot be read any more. -/
inductive StreamEnding
  | closed
  | silent
  | failed (reason : String)
  deriving DecidableEq

/-- What answering one request comes to. -/
structure Answered (σ : Type) where
  reply : Option Message
  events : Array Log.Event
  state : σ

/-- What serving a connection comes to: the octets written to the client, the events,
and the state that is left. -/
structure StreamServed (σ : Type) where
  written : List UInt8 := []
  events : Array Log.Event := #[]
  state : σ

/-- The event of a client that was silent for too long between two frames. -/
def closingIdle (client : Net.Endpoint) : Log.Event :=
  { level := .debug
    message := "closing idle tcp connection"
    fields := [("client", .text client.text)] }

/-- The event of a connection that failed. -/
def connectionFailed (client : Net.Endpoint) (reason : String) : Log.Event :=
  { level := .warn
    message := "TCP connection with " ++ client.text ++ " failed: " ++ reason }

/-- The events of an ending between two frames. -/
def endingBetween (client : Net.Endpoint) : StreamEnding → Array Log.Event
  | .closed => #[]
  | .silent => #[closingIdle client]
  | .failed reason => #[connectionFailed client reason]

/-- Why an ending within a frame is a failure. -/
def StreamEnding.reason : StreamEnding → String
  | .closed => Upstream.earlyEnd
  | .silent => Upstream.timeOver
  | .failed reason => reason

/-- The frame of a reply. -/
def replyFrame (reply : Message) : Except WriteError (List UInt8) :=
  match reply.encode with
  | .error error => .error error
  | .ok octets =>
      match Frame.around? octets.toList with
      | some frame => .ok frame
      | none => .error .dataTooLong

/-- Serve the frames of a stream until it ends. -/
def serveStream
    {σ : Type}
    (answer : σ → Request → Answered σ)
    (client : Net.Endpoint)
    (ending : StreamEnding)
    (state : σ)
    (stream : List UInt8) :
    StreamServed σ :=
  match _ : Frame.cut stream with
  | .noLength => { events := endingBetween client ending, state }
  | .noBody => { events := #[connectionFailed client ending.reason], state }
  | .whole body rest =>
      let answered := answer state { arrival := .stream, client, octets := body.toArray }
      match answered.reply.mapM replyFrame with
      | .error error =>
          { events := answered.events.push (connectionFailed client error.message)
            state := answered.state }
      | .ok frame? =>
          let served := serveStream answer client ending answered.state rest
          { written := frame?.getD [] ++ served.written
            events := answered.events ++ served.events
            state := served.state }
termination_by stream.length
decreasing_by exact Frame.length_rest_lt (by assumption)

end Server
end Sinkhole
