import Sinkhole.Proofs.Dns.Encoding
import Sinkhole.Server.Handle

/-!
# What a reply is made of

Judging a request comes to one verdict, and settling a query to one result, by the first
rule that applies. So the reply to a request is of one of four kinds: made from a query
that failed, made from a header alone, the blocked answer, or the answers of an upstream.
A request that is as long as a header always has a reply.
-/

namespace Sinkhole

open Dns

/-- The verdict on a request without what else is known and logged. -/
theorem Judgement.verdict_ofRequest
    (policy : Policy)
    (requestId : Except Failure String)
    (request : Request) :
    (ofRequest policy requestId request).verdict =
      match requestId, request.message with
      | .error failure, _ => .failed (.requestId failure)
      | .ok _, .error error => .failed (.invalidRequest error.message)
      | .ok _, .ok query =>
          match query.questions.head? with
          | none => .failed .noQuestion
          | some question =>
              if question.qclass = .internet then
                match blockedData? question.qtype with
                | none => .failed (.unsupportedType question.qtype)
                | some rdata =>
                    if policy question.qname.canonical then
                      .blocked (answerReply query [blockedAnswer question rdata])
                    else
                      .cleared query question
              else
                .failed (.unsupportedClass question.qclass) := by
  unfold ofRequest
  cases requestId with
  | error failure => rfl
  | ok requestId =>
      cases request.message with
      | error error => rfl
      | ok query =>
          simp only [ofQuery]
          cases query.questions.head? with
          | none => rfl
          | some question =>
              simp only [ofQuestion]
              split
              · cases blockedData? question.qtype with
                | none => rfl
                | some rdata => cases policy question.qname.canonical <;> rfl
              · rfl

namespace Judgement

variable {policy : Policy} {requestId : Except Failure String} {request : Request}

/-- What is blocked is a query that can be read, for an address, and has its name among
the blocked ones. -/
theorem exists_of_verdict_blocked
    {reply : Message}
    (judged : (ofRequest policy requestId request).verdict = .blocked reply) :
    ∃ query question rdata, request.message = .ok query ∧
      query.questions.head? = some question ∧ blockedData? question.qtype = some rdata ∧
      reply = answerReply query [blockedAnswer question rdata] := by
  rw [verdict_ofRequest] at judged
  grind

/-- What is cleared is a query that can be read, for an address, and does not have its name
among the blocked ones. -/
theorem exists_of_verdict_cleared
    {query : Message}
    {question : Question}
    (judged : (ofRequest policy requestId request).verdict = .cleared query question) :
    (∃ id, requestId = .ok id) ∧ request.message = .ok query ∧
      query.questions.head? = some question ∧ question.qclass = .internet ∧
      (∃ rdata, blockedData? question.qtype = some rdata) ∧
      policy question.qname.canonical = false := by
  rw [verdict_ofRequest] at judged
  grind

end Judgement

/-- The result of settling a query without what is logged. -/
theorem Settlement.result_ofExchange
    (query : Message)
    (question : Question)
    (call : Call)
    (result : Except Failure Message) :
    (ofExchange query question call result).result =
      match result with
      | .error failure => .error (.exchange failure)
      | .ok response =>
          if response.id ≠ call.query.id then .error (.idMismatch call.query.id response.id)
          else if response.answers = [] then .error .emptyAnswer
          else .ok (answerReply query response.answers) := by
  cases result with
  | error failure => rfl
  | ok response =>
      simp only [ofExchange, ofResponse]
      split
      · rfl
      · split <;> rfl

/-- What succeeds passes on the answers of the response that came back: there are some, and
the response has the id of the call. -/
theorem Settlement.exists_of_result_ofExchange
    {query : Message}
    {question : Question}
    {call : Call}
    {result : Except Failure Message}
    {reply : Message}
    (succeeded : (ofExchange query question call result).result = .ok reply) :
    ∃ response, result = .ok response ∧ response.id = call.query.id ∧
      response.answers ≠ [] ∧ reply = answerReply query response.answers := by
  rw [result_ofExchange] at succeeded
  grind

/-! ## Verdicts and results -/

section Resolve

variable {σ : Type} {policy : Policy} {exchange : Exchange} {chance : Chance} {request : Request}

theorem resolve_of_failed
    {error : ResolveError}
    (judged : (Judgement.ofRequest policy chance.requestId request).verdict = .failed error)
    (choose : Chooser σ)
    (state : σ) :
    let judgement := Judgement.ofRequest policy chance.requestId request
    resolve policy choose exchange chance state request =
      ({ result := .error error, summary := judgement.summary, events := judgement.events },
        state) := by
  simp only [resolve, judged]

theorem resolve_of_blocked
    {reply : Message}
    (judged : (Judgement.ofRequest policy chance.requestId request).verdict = .blocked reply)
    (choose : Chooser σ)
    (state : σ) :
    let judgement := Judgement.ofRequest policy chance.requestId request
    resolve policy choose exchange chance state request =
      ({ result := .ok reply, summary := judgement.summary, events := judgement.events },
        state) := by
  simp only [resolve, judged]

theorem resolve_of_cleared
    {query : Message}
    {question : Question}
    (judged :
      (Judgement.ofRequest policy chance.requestId request).verdict = .cleared query question)
    (choose : Chooser σ)
    (state : σ) :
    let judgement := Judgement.ofRequest policy chance.requestId request
    let call := Call.on chance.transactionId query question (choose state).1
    resolve policy choose exchange chance state request =
      (judgement.forward exchange query question call, (choose state).2) := by
  simp only [resolve, judged]

end Resolve

/-- The result of a request by its verdict. -/
theorem result_dispatch
    (policy : Policy)
    (exchange : Exchange)
    (chance : Chance)
    (rotation : Rotation Net.Endpoint)
    (request : Request) :
    (dispatch policy exchange chance rotation request).result =
      match (Judgement.ofRequest policy chance.requestId request).verdict with
      | .failed error => .error error
      | .blocked reply => .ok reply
      | .cleared query question =>
          let call := Call.on chance.transactionId query question rotation.current
          (Settlement.ofExchange query question call
            (exchange call.query call.upstream).result).result := by
  rw [dispatch]
  cases judged : (Judgement.ofRequest policy chance.requestId request).verdict with
  | failed error => rw [resolve_of_failed judged]
  | blocked reply => rw [resolve_of_blocked judged]
  | cleared query question =>
      rw [resolve_of_cleared judged]
      rfl

/-- An upstream is asked about the queries that are cleared, and about no others. -/
theorem call_dispatch
    (policy : Policy)
    (exchange : Exchange)
    (chance : Chance)
    (rotation : Rotation Net.Endpoint)
    (request : Request) :
    (dispatch policy exchange chance rotation request).call =
      match (Judgement.ofRequest policy chance.requestId request).verdict with
      | .failed _ | .blocked _ => none
      | .cleared query question =>
          some (Call.on chance.transactionId query question rotation.current) := by
  rw [dispatch]
  cases judged : (Judgement.ofRequest policy chance.requestId request).verdict with
  | failed error => rw [resolve_of_failed judged]
  | blocked reply => rw [resolve_of_blocked judged]
  | cleared query question =>
      rw [resolve_of_cleared judged]
      rfl

/-! ## Replies -/

/-- The kinds of reply that a request can get, when the upstreams are asked in the given
way. -/
inductive RepliesTo (request : Request) (exchange : Exchange) : Message → Prop
  | failed
      {query : Message}
      (read : request.message = .ok query)
      (error : ResolveError) :
      RepliesTo request exchange (errorReply query error)
  | unread
      {error : ResolveError}
      {reply : Message}
      (made : headerReply? request.octets error = some reply) :
      RepliesTo request exchange reply
  | blocked
      {query : Message}
      {question : Question}
      {rdata : RData}
      (read : request.message = .ok query)
      (first : query.questions.head? = some question)
      (data : blockedData? question.qtype = some rdata) :
      RepliesTo request exchange (answerReply query [blockedAnswer question rdata])
  | relayed
      {query response : Message}
      {call : Call}
      (read : request.message = .ok query)
      (exchanged : (exchange call.query call.upstream).result = .ok response) :
      RepliesTo request exchange (answerReply query response.answers)

/-- A reply that reports no error is the blocked answer or passes answers on. -/
theorem repliesTo_of_result_dispatch
    {policy : Policy}
    {exchange : Exchange}
    {chance : Chance}
    {rotation : Rotation Net.Endpoint}
    {request : Request}
    {reply : Message}
    (succeeded : (dispatch policy exchange chance rotation request).result = .ok reply) :
    RepliesTo request exchange reply := by
  rw [result_dispatch] at succeeded
  cases judged : (Judgement.ofRequest policy chance.requestId request).verdict with
  | failed error =>
      rw [judged] at succeeded
      cases succeeded
  | blocked blockedReply =>
      rw [judged] at succeeded
      cases succeeded
      obtain ⟨query, question, rdata, read, first, data, rfl⟩ :=
        Judgement.exists_of_verdict_blocked judged
      exact .blocked read first data
  | cleared query question =>
      rw [judged] at succeeded
      obtain ⟨response, exchanged, _, _, rfl⟩ :=
        Settlement.exists_of_result_ofExchange succeeded
      obtain ⟨_, read, _⟩ := Judgement.exists_of_verdict_cleared judged
      exact .relayed read exchanged

theorem headerReply?_of_short
    {octets : Array UInt8}
    (short : octets.size < headerLength)
    (error : ResolveError) :
    headerReply? octets error = none := by
  rw [headerReply?, if_pos short]

/-- Twelve octets are enough for a reply from the header. -/
theorem headerReply?_of_long
    {octets : Array UInt8}
    (long : 12 ≤ octets.size)
    (error : ResolveError) :
    headerReply? octets error =
      some
        { id := word octets[0] octets[1]
          flags := { headerFlags octets with rcode := error.responseCode.code } } := by
  have notShort : ¬octets.size < headerLength := Nat.not_lt.mpr long
  have first : octets[0]? = some octets[0] := Array.getElem?_eq_getElem (by omega)
  have second : octets[1]? = some octets[1] := Array.getElem?_eq_getElem (by omega)
  simp only [headerReply?, notShort, if_false, peekId?, first, second, Option.map_some]
  rfl

/-- What is made from a header is made of twelve octets at least. -/
theorem exists_of_headerReply
    {octets : Array UInt8}
    {error : ResolveError}
    {reply : Message}
    (made : headerReply? octets error = some reply) :
    ∃ long : 12 ≤ octets.size,
      reply =
        { id := word octets[0] octets[1]
          flags := { headerFlags octets with rcode := error.responseCode.code } } := by
  by_cases long : 12 ≤ octets.size
  · rw [headerReply?_of_long long, Option.some.injEq] at made
    exact ⟨long, made.symm⟩
  · rw [headerReply?_of_short (Nat.not_le.mp long)] at made
    cases made

/-- A reply made from a header has nothing in its sections. -/
theorem sections_of_headerReply
    {octets : Array UInt8}
    {error : ResolveError}
    {reply : Message}
    (made : headerReply? octets error = some reply) :
    reply.questions = [] ∧ reply.records = [] := by
  obtain ⟨_, rfl⟩ := exists_of_headerReply made
  exact ⟨rfl, rfl⟩

/-- The reply to a request that has come to the given result, if there is one. -/
def Request.replyTo? (request : Request) (result : Except ResolveError Message) :
    Option Message :=
  match result with
  | .ok reply => some reply
  | .error error => request.errorReply? error

/-- A reply that reports an error has no records. -/
theorem Request.records_of_errorReply?
    {request : Request}
    {error : ResolveError}
    {reply : Message}
    (made : request.errorReply? error = some reply) :
    reply.records = [] := by
  rw [errorReply?] at made
  cases read : request.message with
  | ok query =>
      rw [read] at made
      cases made
      rfl
  | error readError =>
      rw [read] at made
      exact (sections_of_headerReply made).2

/-- The reply to a request by the result of dispatching it. -/
theorem Dispatched.reply_handled
    (dispatched : Dispatched)
    (request : Request)
    (elapsedMillis : UInt64) :
    (dispatched.handled request elapsedMillis).reply = request.replyTo? dispatched.result := by
  unfold handled reply Request.replyTo?
  cases dispatched.result with
  | ok reply => rfl
  | error error =>
      dsimp only
      cases request.errorReply? error <;> rfl

section Reply

variable {policy : Policy} {exchange : Exchange} {chance : Chance}
  {rotation : Rotation Net.Endpoint} {request : Request}

/-- A reply is of one of the four kinds. -/
theorem repliesTo_of_reply_handle
    {reply : Message}
    (replied : (handle policy exchange chance rotation request).reply = some reply) :
    RepliesTo request exchange reply := by
  rw [handle, Dispatched.reply_handled] at replied
  cases result_eq : (dispatch policy exchange chance rotation request).result with
  | ok own =>
      rw [result_eq] at replied
      cases replied
      exact repliesTo_of_result_dispatch result_eq
  | error error =>
      rw [result_eq, Request.replyTo?, Request.errorReply?] at replied
      cases read : request.message with
      | ok query =>
          rw [read] at replied
          cases replied
          exact .failed read error
      | error _ =>
          rw [read] at replied
          exact .unread replied

/-- A request that cannot be read has the reply that is made from its header, if it has one. -/
theorem reply_handle_of_unread
    {requestId : String}
    {error : ReadError}
    (identified : chance.requestId = .ok requestId)
    (unread : request.message = .error error) :
    (handle policy exchange chance rotation request).reply =
      headerReply? request.octets (.invalidRequest error.message) := by
  have verdict : (Judgement.ofRequest policy chance.requestId request).verdict =
      .failed (.invalidRequest error.message) := by
    rw [Judgement.verdict_ofRequest, identified, unread]
  have result : (dispatch policy exchange chance rotation request).result =
      .error (.invalidRequest error.message) := by
    rw [result_dispatch, verdict]
  rw [handle, Dispatched.reply_handled, result, Request.replyTo?, Request.errorReply?, unread]

end Reply

/-- A request that is as long as a header has a reply. -/
theorem exists_reply
    (policy : Policy)
    (exchange : Exchange)
    (chance : Chance)
    (rotation : Rotation Net.Endpoint)
    {request : Request}
    (long : headerLength ≤ request.octets.size) :
    ∃ reply, (handle policy exchange chance rotation request).reply = some reply ∧
      RepliesTo request exchange reply := by
  obtain ⟨reply, replied⟩ :
      ∃ reply, (handle policy exchange chance rotation request).reply = some reply := by
    rw [handle, Dispatched.reply_handled]
    cases (dispatch policy exchange chance rotation request).result with
    | ok reply => exact ⟨reply, rfl⟩
    | error error =>
        rw [Request.replyTo?, Request.errorReply?]
        cases request.message with
        | ok query => exact ⟨errorReply query error, rfl⟩
        | error _ => exact ⟨_, headerReply?_of_long long error⟩
  exact ⟨reply, replied, repliesTo_of_reply_handle replied⟩

/-- Answers are passed on for a query that is in order and not blocked, when a response
with the id of the call and with answers comes back. -/
theorem reply_handle_of_relay
    {policy : Policy}
    {exchange : Exchange}
    {chance : Chance}
    {rotation : Rotation Net.Endpoint}
    {request : Request}
    {requestId : String}
    {query response : Message}
    {question : Question}
    {rdata : RData}
    (identified : chance.requestId = .ok requestId)
    (read : request.message = .ok query)
    (first : query.questions.head? = some question)
    (internet : question.qclass = .internet)
    (data : blockedData? question.qtype = some rdata)
    (unblocked : policy question.qname.canonical = false)
    (exchanged :
      (exchange (outboundQuery chance.transactionId query question) rotation.current).result =
        .ok response)
    (sameId : response.id = chance.transactionId)
    (answered : response.answers ≠ []) :
    (handle policy exchange chance rotation request).reply =
      some (answerReply query response.answers) := by
  have verdict : (Judgement.ofRequest policy chance.requestId request).verdict =
      .cleared query question := by
    simp [Judgement.verdict_ofRequest, identified, read, first, internet, data, unblocked]
  let call := Call.on chance.transactionId query question rotation.current
  have callExchanged : (exchange call.query call.upstream).result = .ok response := exchanged
  have result : (dispatch policy exchange chance rotation request).result =
      .ok (answerReply query response.answers) := by
    rw [result_dispatch, verdict]
    dsimp only
    rw [callExchanged, Settlement.result_ofExchange]
    simp [sameId, answered]
  rw [handle, Dispatched.reply_handled, result, Request.replyTo?]

end Sinkhole
