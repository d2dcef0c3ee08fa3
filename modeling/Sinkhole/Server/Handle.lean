import Sinkhole.Resolver.Dispatch

/-!
# Handling a request

Whatever becomes of a query, its client gets a reply, unless the request is too
short to say where the reply belongs. A request that gets a reply leaves one line
in the log that sums it up.
-/

namespace Sinkhole

open Dns

/-- What handling a request comes to. -/
structure Handled where
  reply : Option Message
  summary : Summary
  call : Option Call := none
  rotation : Rotation Net.Endpoint
  events : Array Log.Event

/-- The event that sums up a request. Where something is not known, its text is
empty, and for the identifier it is a dash. -/
def summaryEvent
    (request : Request)
    (summary : Summary)
    (elapsedMillis : UInt64) :
    Log.Event :=
  { level := .info
    message := "query handled"
    fields :=
      [("request.id", .text (summary.requestId.getD "-")),
        ("remote_addr", .text request.client.text),
        ("transport", .text request.arrival.text),
        ("query.fqdn", .text ((summary.qname.map Name.fqdn).getD "")),
        ("query.qtype", .text ((summary.qtype.map Coded.text).getD "")),
        ("blocked", .flag summary.blocked),
        ("nameserver", .text ((summary.upstream.map Net.Endpoint.text).getD "")),
        ("rcode", .text ((summary.responseCode.map ResponseCode.text).getD "")),
        ("elapsed_ms", .number elapsedMillis.toNat)] }

namespace Dispatched

/-- The event of a reply that reports an error. -/
def errorEvent (request : Request) (error : ResolveError) : Log.Event :=
  { level := .debug
    message := "replying with error"
    fields :=
      [("client", .text request.client.text), ("error", .text error.message)] }

/-- The event of a request that is dropped. -/
def dropEvent (request : Request) : Log.Event :=
  { level := .warn
    message := "dropping request shorter than a header"
    fields :=
      [("client", .text request.client.text), ("len", .number request.octets.size)] }

/-- The reply to a dispatched request, if there is one, and the events that go with
it. -/
def reply (dispatched : Dispatched) (request : Request) :
    Option Message × Array Log.Event :=
  match dispatched.result with
  | .ok reply => (some reply, #[])
  | .error error =>
      match request.errorReply? error with
      | some reply => (some reply, #[errorEvent request error])
      | none => (none, #[errorEvent request error, dropEvent request])

/-- Finish a dispatched request: choose the reply and sum up. -/
def handled
    (dispatched : Dispatched)
    (request : Request)
    (elapsedMillis : UInt64) :
    Handled :=
  let (reply, events) := dispatched.reply request
  let events := dispatched.events ++ events
  match reply with
  | none =>
      { reply
        summary := dispatched.summary
        call := dispatched.call
        rotation := dispatched.rotation
        events }
  | some message =>
      let summary :=
        { dispatched.summary with responseCode := message.flags.responseCode? }
      { reply
        summary
        call := dispatched.call
        rotation := dispatched.rotation
        events := events.push (summaryEvent request summary elapsedMillis) }

end Dispatched

/-- Handle a request. -/
def handle
    (policy : Policy)
    (exchange : Exchange)
    (chance : Chance)
    (rotation : Rotation Net.Endpoint)
    (request : Request) :
    Handled :=
  (dispatch policy exchange chance rotation request).handled request chance.elapsedMillis

end Sinkhole
