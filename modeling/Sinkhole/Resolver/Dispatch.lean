import Sinkhole.Blocklist.Basic
import Sinkhole.Log.Event
import Sinkhole.Resolver.Reply
import Sinkhole.Resolver.Rotation

/-!
# What becomes of a query

Only the first question of a query counts. If its class is not the Internet's or
its type is not an address type, it is refused. If its name is blocked, it is
answered with the unspecified address of the family asked for. Otherwise a new
query with nothing but the question goes to the upstream whose turn it is, and the
answers that come back are passed on.

The work has three parts: judging the query, which needs no one else; asking the
upstream; and settling what came back. Each part says what there is to log.
-/

namespace Sinkhole

open Dns

/-- Which names get the blocked answer. A name is given in lowercase and with its
trailing dot. -/
abbrev Policy := String → Bool

/-- The policy of a blocklist. -/
def Blocklist.policy (blocklist : Blocklist) : Policy :=
  blocklist.contains

/-- What chance provides for one query: an identifier for the log, which may be
hard to come by, an id for the message that goes upstream, and how long it takes
until the query is summed up. -/
structure Chance where
  requestId : Except Failure String
  transactionId : UInt16
  elapsedMillis : UInt64

/-- What asking an upstream comes to. -/
structure Exchanged where
  result : Except Failure Message
  events : Array Log.Event := #[]

/-- A way of asking an upstream. -/
abbrev Exchange := Message → Net.Endpoint → Exchanged

/-- A message that went upstream, and where it went. -/
structure Call where
  query : Message
  upstream : Net.Endpoint
  deriving DecidableEq

/-- What judging a query comes to. -/
inductive Verdict
  | failed (error : ResolveError)
  | blocked (reply : Message)
  | cleared (query : Message) (question : Question)

/-- A verdict, what is known of the request by then, and what there is to log. -/
structure Judgement where
  verdict : Verdict
  summary : Summary
  events : Array Log.Event := #[]

/-- The data of the blocked answer to a question of the given type. -/
def blockedData? (qtype : RecordType) : Option RData :=
  if qtype = .a then some (.ipv4 .unspecified)
  else if qtype = .aaaa then some (.ipv6 .unspecified)
  else none

/-- The blocked answer to a question. -/
def blockedAnswer (question : Question) (rdata : RData) : Record :=
  { name := question.qname
    rtype := question.qtype
    rclass := .internet
    ttl := 0
    rdata }

/-- A reply that passes answers on. -/
def answerReply (query : Message) (answers : List Record) : Message :=
  (((Draft.replyTo query).addAnswers answers).withResponse .noError).build

/-- The query that goes upstream for a question. -/
def outboundQuery (transactionId : UInt16) (query : Message) (question : Question) : Message :=
  (((Draft.query.withId transactionId).withFlags
    { recursionDesired := query.flags.recursionDesired }).addQuestion question).build

namespace Judgement

/-- The name asked for, as it is logged. -/
def nameField (question : Question) : String × Log.Value :=
  ("query.fqdn", .text question.qname.fqdn)

/-- Judge a question whose class is in order. -/
def ofQuestion
    (policy : Policy)
    (query : Message)
    (question : Question)
    (summary : Summary) :
    Judgement :=
  match blockedData? question.qtype with
  | none =>
      { verdict := .failed (.unsupportedType question.qtype)
        summary
        events := #[{
          level := .warn
          message := "refusing query type"
          fields := [nameField question, ("query.qtype", .text question.qtype.text)] }] }
  | some rdata =>
      if policy question.qname.canonical then
        { verdict := .blocked (answerReply query [blockedAnswer question rdata])
          summary := { summary with blocked := true }
          events := #[{
            level := .info
            message := "blocked"
            fields := [nameField question, ("query.qtype", .text question.qtype.text)] }] }
      else
        { verdict := .cleared query question, summary }

/-- Judge a query that could be read. -/
def ofQuery (policy : Policy) (query : Message) (summary : Summary) : Judgement :=
  match query.questions.head? with
  | none =>
      { verdict := .failed .noQuestion
        summary
        events := #[{ level := .warn, message := "refusing query without question" }] }
  | some question =>
      let summary :=
        { summary with qname := some question.qname, qtype := some question.qtype }
      if question.qclass = .internet then
        ofQuestion policy query question summary
      else
        { verdict := .failed (.unsupportedClass question.qclass)
          summary
          events := #[{
            level := .warn
            message := "refusing query class"
            fields := [nameField question, ("query.qclass", .text question.qclass.text)] }] }

/-- Judge a request. -/
def ofRequest
    (policy : Policy)
    (requestId : Except Failure String)
    (request : Request) :
    Judgement :=
  match requestId with
  | .error failure =>
      { verdict := .failed (.requestId failure)
        summary := {}
        events := #[{
          level := .error
          message := "failed to generate request id"
          fields := [("error", .text failure.message)] }] }
  | .ok requestId =>
      let summary : Summary := { requestId := some requestId }
      match request.message with
      | .error error => { verdict := .failed (.invalidRequest error.message), summary }
      | .ok query => ofQuery policy query summary

end Judgement

/-- What settling a query comes to. -/
structure Settlement where
  result : Except ResolveError Message
  events : Array Log.Event

namespace Settlement

/-- The upstream that was asked, as it is logged. -/
def upstreamField (upstream : Net.Endpoint) : String × Log.Value :=
  ("nameserver", .text upstream.text)

/-- The events of passing answers on. -/
def relayEvents
    (question : Question)
    (upstream : Net.Endpoint)
    (answers : List Record) :
    Array Log.Event :=
  let each := answers.map fun answer =>
    ({ level := .debug
       message := "answer"
       fields := [upstreamField upstream, ("answer", .text answer.text)] } : Log.Event)
  each.toArray.push {
    level := .info
    message := "relaying upstream answers"
    fields := [Judgement.nameField question, upstreamField upstream,
      ("answers", .number answers.length)] }

/-- Settle a query with the response that an upstream gave. -/
def ofResponse
    (query : Message)
    (question : Question)
    (call : Call)
    (response : Message) :
    Settlement :=
  let fields := [Judgement.nameField question, upstreamField call.upstream]
  if response.id ≠ call.query.id then
    { result := .error (.idMismatch call.query.id response.id)
      events := #[{
        level := .warn
        message := "transaction id mismatch"
        fields := fields ++
          [("expected", .number call.query.id.toNat),
            ("got", .number response.id.toNat)] }] }
  else if response.answers = [] then
    { result := .error .emptyAnswer
      events := #[{ level := .info, message := "upstream returned no answers", fields }] }
  else
    { result := .ok (answerReply query response.answers)
      events := relayEvents question call.upstream response.answers }

/-- Settle a query with what asking an upstream came to. -/
def ofExchange
    (query : Message)
    (question : Question)
    (call : Call)
    (result : Except Failure Message) :
    Settlement :=
  match result with
  | .error failure =>
      { result := .error (.exchange failure)
        events := #[{
          level := .warn
          message := "upstream exchange failed"
          fields := [Judgement.nameField question, upstreamField call.upstream,
            ("error", .text failure.message)] }] }
  | .ok response => ofResponse query question call response

end Settlement

/-- What becomes of one request. -/
structure Resolution where
  result : Except ResolveError Message
  summary : Summary
  call : Option Call := none
  events : Array Log.Event

/-- A way of choosing upstreams. What it keeps from one choice to the next is its
state. -/
abbrev Chooser (σ : Type) := σ → Net.Endpoint × σ

/-- The call that asks an upstream on behalf of a query. -/
def Call.on
    (transactionId : UInt16)
    (query : Message)
    (question : Question)
    (upstream : Net.Endpoint) :
    Call :=
  { query := outboundQuery transactionId query question, upstream }

/-- The response to a call has to have the id that the call was given. -/
@[simp] theorem Call.id_query_on
    (transactionId : UInt16)
    (query : Message)
    (question : Question)
    (upstream : Net.Endpoint) :
    (Call.on transactionId query question upstream).query.id = transactionId :=
  rfl

@[simp] theorem Call.upstream_on
    (transactionId : UInt16)
    (query : Message)
    (question : Question)
    (upstream : Net.Endpoint) :
    (Call.on transactionId query question upstream).upstream = upstream :=
  rfl

/-- Ask an upstream, and settle the query. -/
def Judgement.forward
    (judgement : Judgement)
    (exchange : Exchange)
    (query : Message)
    (question : Question)
    (call : Call) :
    Resolution :=
  let exchanged := exchange call.query call.upstream
  let settlement := Settlement.ofExchange query question call exchanged.result
  { result := settlement.result
    summary := { judgement.summary with upstream := some call.upstream }
    call := some call
    events := judgement.events ++ exchanged.events ++ settlement.events }

/-- Find the reply to a request, with upstreams chosen in the given way. An upstream is
chosen only for a query that goes to it. -/
def resolve
    {σ : Type}
    (policy : Policy)
    (choose : Chooser σ)
    (exchange : Exchange)
    (chance : Chance)
    (state : σ)
    (request : Request) :
    Resolution × σ :=
  let judgement := Judgement.ofRequest policy chance.requestId request
  match judgement.verdict with
  | .failed error =>
      ({ result := .error error, summary := judgement.summary, events := judgement.events },
        state)
  | .blocked reply =>
      ({ result := .ok reply, summary := judgement.summary, events := judgement.events },
        state)
  | .cleared query question =>
      let (upstream, state) := choose state
      let call := Call.on chance.transactionId query question upstream
      (judgement.forward exchange query question call, state)

/-- What becomes of one request, and the rotation after it. -/
structure Dispatched extends Resolution where
  rotation : Rotation Net.Endpoint

/-- Find the reply to a request, asking the upstream whose turn it is. -/
def dispatch
    (policy : Policy)
    (exchange : Exchange)
    (chance : Chance)
    (rotation : Rotation Net.Endpoint)
    (request : Request) :
    Dispatched :=
  let (resolution, rotation) := resolve policy Rotation.next exchange chance rotation request
  { resolution with rotation }

end Sinkhole
