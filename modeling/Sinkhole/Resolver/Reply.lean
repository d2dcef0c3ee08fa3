import Sinkhole.Dns.Draft
import Sinkhole.Dns.Peek
import Sinkhole.Resolver.Error
import Sinkhole.Resolver.Request

/-!
# Replies to queries that failed

A reply to a message that could be read is made from the message. Otherwise the
header alone has to do: its id, its operation code and whether it asks for
recursion. A request shorter than a header gets no reply.
-/

namespace Sinkhole

open Dns

/-- The reply to a query that failed. -/
def errorReply (query : Message) (error : ResolveError) : Message :=
  ((Draft.replyTo query).withResponse error.responseCode).build

/-- The flags of a reply made from a header. -/
def headerFlags (octets : Array UInt8) : Flags :=
  { response := true
    opcode := (peekOpcode? octets).getD .query
    recursionDesired := peekRecursionDesired octets
    recursionAvailable := true }

/-- The reply to a request of which only the header can be read. -/
def headerReply? (octets : Array UInt8) (error : ResolveError) : Option Message :=
  if octets.size < headerLength then
    none
  else
    (peekId? octets).map fun id =>
      (((Draft.query.withId id).withFlags (headerFlags octets)).withResponse
        error.responseCode).build

/-- The reply to a request that failed, if there is one. -/
def Request.errorReply? (request : Request) (error : ResolveError) : Option Message :=
  match request.message with
  | .ok query => some (errorReply query error)
  | .error _ => headerReply? request.octets error

end Sinkhole
