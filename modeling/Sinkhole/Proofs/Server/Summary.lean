import Sinkhole.Proofs.Resolver.Decision
import Sinkhole.Upstream.Exchange

/-!
# The summary of a request

What is known of a request is collected step by step, and the steps end where the request is
decided. Whatever the end, the summary says what happened: the question if there was one to judge,
whether the reply was made here, the upstream if one was asked, and the response code of the reply.
It is logged once, behind all other events, and only if there is a reply.
-/

namespace Sinkhole

open Dns

/-- Of some events those that sum up a request. -/
def summaryEvents (events : Array Log.Event) : List Log.Event :=
  events.toList.filter fun event => event.message == "query handled"

theorem summaryEvents_append (first second : Array Log.Event) :
    summaryEvents (first ++ second) = summaryEvents first ++ summaryEvents second := by
  simp [summaryEvents]

theorem summaryEvents_push
    (events : Array Log.Event)
    (request : Request)
    (summary : Summary)
    (elapsedMillis : UInt64) :
    summaryEvents (events.push (summaryEvent request summary elapsedMillis)) =
      summaryEvents events ++ [summaryEvent request summary elapsedMillis] := by
  simp [summaryEvents, summaryEvent]

/-! ## Judging -/

/-- Whether a verdict is that the name is blocked. -/
def Verdict.isBlocked : Verdict → Bool
  | .blocked _ => true
  | .failed _ | .cleared _ _ => false

/-- The question that a request is judged by, if it comes to that. -/
def Request.judged? (request : Request) (requestId : Except Failure String) : Option Question :=
  match requestId, request.message with
  | .ok _, .ok query => query.questions.head?
  | _, _ => none

/-- A request is judged by its first question, if it has an identifier and can be read. -/
theorem Request.judged?_eq_some_iff
    {request : Request}
    {requestId : Except Failure String}
    {question : Question} :
    request.judged? requestId = some question ↔
      (∃ id, requestId = .ok id) ∧ ∃ query, Asks request query question := by
  unfold judged?
  constructor
  · intro found
    split at found
    · next query read => exact ⟨⟨_, rfl⟩, query, read, found⟩
    · cases found
  · rintro ⟨⟨id, rfl⟩, query, asks⟩
    rw [asks.read]
    exact asks.first

/-- What is known of the question is known of the first question of a request that has an
identifier and can be read. -/
theorem Request.map_judged?_eq_some_iff
    {α : Type}
    {request : Request}
    {requestId : Except Failure String}
    {field : Question → α}
    {value : α} :
    (request.judged? requestId).map field = some value ↔
      (∃ id, requestId = .ok id) ∧
        ∃ query question, Asks request query question ∧ field question = value := by
  simp only [Option.map_eq_some_iff, judged?_eq_some_iff]
  constructor
  · rintro ⟨question, ⟨identified, query, asks⟩, rfl⟩
    exact ⟨identified, query, question, asks, rfl⟩
  · rintro ⟨identified, query, question, asks, rfl⟩
    exact ⟨question, ⟨identified, query, asks⟩, rfl⟩

namespace Judgement

variable (policy : Policy) (requestId : Except Failure String) (request : Request)

/-- Judging leaves a summary of the identifier and of the question, and of whether the name is
blocked. It logs nothing that looks like a summary. -/
theorem summary_and_events_ofRequest :
    (ofRequest policy requestId request).summary =
      { requestId := requestId.toOption
        qname := (request.judged? requestId).map fun question => question.qname
        qtype := (request.judged? requestId).map fun question => question.qtype
        blocked := (ofRequest policy requestId request).verdict.isBlocked } ∧
      summaryEvents (ofRequest policy requestId request).events = [] := by
  unfold ofRequest Request.judged?
  cases requestId with
  | error failure => exact ⟨rfl, rfl⟩
  | ok id =>
      cases request.message with
      | error error => exact ⟨rfl, rfl⟩
      | ok query =>
          simp only [ofQuery]
          cases query.questions.head? with
          | none => exact ⟨rfl, rfl⟩
          | some question =>
              simp only [ofQuestion]
              split
              · cases blockedData? question.qtype with
                | none => exact ⟨rfl, rfl⟩
                | some rdata =>
                    cases policy question.qname.canonical <;> exact ⟨rfl, rfl⟩
              · exact ⟨rfl, rfl⟩

end Judgement

/-! ## Asking -/

/-- What asking an upstream has to log, if one is asked. -/
def Exchange.logged (exchange : Exchange) : Option Call → Array Log.Event
  | none => #[]
  | some call => (exchange call.query call.upstream).events

theorem Settlement.summaryEvents_ofExchange
    (query : Message)
    (question : Question)
    (call : Call)
    (result : Except Failure Message) :
    summaryEvents (ofExchange query question call result).events = [] := by
  cases result with
  | error failure => rfl
  | ok response =>
      simp only [ofExchange, ofResponse]
      split
      · rfl
      · split
        · rfl
        · simp [summaryEvents, relayEvents]

namespace Upstream

theorem events_stream_ask
    (link : StreamLink)
    (server : Option Net.ServerName)
    (query : Message)
    (upstream : Net.Endpoint) :
    (Stream.ask link server query upstream).events = #[] := by
  unfold Stream.ask
  split
  · rfl
  · split
    · rfl
    · split <;> rfl

theorem summaryEvents_datagram_ask
    (links : Links)
    (query : Message)
    (upstream : Net.Endpoint) :
    summaryEvents (Datagram.ask links query upstream).events = [] := by
  unfold Datagram.ask
  split
  · rfl
  · dsimp only
    split
    · rfl
    · split
      · rw [events_stream_ask]
        rfl
      · rfl

/-- The program's own ways of asking log nothing that looks like a summary. -/
theorem summaryEvents_exchange
    (carrier : Carrier)
    (links : Net.Endpoint → Links)
    (query : Message)
    (upstream : Net.Endpoint) :
    summaryEvents (exchange carrier links query upstream).events = [] := by
  cases carrier with
  | datagram => exact summaryEvents_datagram_ask (links upstream) query upstream
  | stream =>
      exact congrArg summaryEvents (events_stream_ask (links upstream).stream none query upstream)
  | secure server =>
      exact congrArg summaryEvents
        (events_stream_ask (links upstream).stream (some server) query upstream)

theorem summaryEvents_logged
    (carrier : Carrier)
    (links : Net.Endpoint → Links)
    (call : Option Call) :
    summaryEvents ((exchange carrier links).logged call) = [] := by
  cases call with
  | none => rfl
  | some call => exact summaryEvents_exchange carrier links call.query call.upstream

end Upstream

section Dispatch

variable (policy : Policy) (exchange : Exchange) (chance : Chance)
  (rotation : Rotation Net.Endpoint) (request : Request)

/-- If an upstream is asked, dispatching adds it to what judging leaves, and what asking it has to
log. -/
theorem summary_and_events_dispatch :
    let judgement := Judgement.ofRequest policy chance.requestId request
    let dispatched := dispatch policy exchange chance rotation request
    dispatched.summary =
        { judgement.summary with upstream := dispatched.call.map fun call => call.upstream } ∧
      summaryEvents dispatched.events = summaryEvents (exchange.logged dispatched.call) := by
  intro judgement dispatched
  obtain ⟨summary_eq, quiet⟩ :=
    Judgement.summary_and_events_ofRequest policy chance.requestId request
  simp only [dispatched, dispatch]
  cases judged : (Judgement.ofRequest policy chance.requestId request).verdict with
  | failed error =>
      rw [resolve_of_failed judged]
      refine ⟨?_, quiet⟩
      rw [summary_eq]
      rfl
  | blocked reply =>
      rw [resolve_of_blocked judged]
      refine ⟨?_, quiet⟩
      rw [summary_eq]
      rfl
  | cleared query question =>
      rw [resolve_of_cleared judged]
      refine ⟨rfl, ?_⟩
      simp only [Judgement.forward, summaryEvents_append, quiet, Settlement.summaryEvents_ofExchange,
        List.nil_append, List.append_nil]
      rfl

/-- Another way of asking makes no difference if it does the same with the one call that is made,
if one is made. -/
theorem dispatch_congr
    {other : Exchange}
    (same : ∀ call, (dispatch policy exchange chance rotation request).call = some call →
      other call.query call.upstream = exchange call.query call.upstream) :
    dispatch policy other chance rotation request =
      dispatch policy exchange chance rotation request := by
  cases judged : (Judgement.ofRequest policy chance.requestId request).verdict with
  | failed error => simp only [dispatch, resolve_of_failed judged]
  | blocked reply => simp only [dispatch, resolve_of_blocked judged]
  | cleared query question =>
      let call := Call.on chance.transactionId query question rotation.next.1
      have called : (dispatch policy exchange chance rotation request).call = some call := by
        simp only [dispatch, resolve_of_cleared judged]
        rfl
      have agreed := same call called
      simp only [dispatch, resolve_of_cleared judged, Judgement.forward, call, agreed]

end Dispatch

/-! ## Handling -/

namespace Dispatched

/-- If there is a reply, handling adds its response code to what dispatching leaves, and behind
everything else the event that sums up. -/
theorem summary_and_events_handled
    (dispatched : Dispatched)
    (request : Request)
    (elapsedMillis : UInt64) :
    let handled := dispatched.handled request elapsedMillis
    handled.call = dispatched.call ∧
      match handled.reply with
      | none =>
          handled.summary = dispatched.summary ∧
            summaryEvents handled.events = summaryEvents dispatched.events
      | some reply =>
          handled.summary =
              { dispatched.summary with responseCode := reply.flags.responseCode? } ∧
            ∃ earlier, summaryEvents earlier = summaryEvents dispatched.events ∧
              handled.events =
                earlier.push (summaryEvent request handled.summary elapsedMillis) := by
  unfold handled reply
  cases dispatched.result with
  | ok reply => exact ⟨rfl, rfl, _, congrArg summaryEvents Array.append_empty, rfl⟩
  | error error =>
      dsimp only
      cases request.errorReply? error with
      | none =>
          refine ⟨rfl, rfl, ?_⟩
          simp [summaryEvents, errorEvent, dropEvent]
      | some reply =>
          refine ⟨rfl, rfl, _, ?_, rfl⟩
          simp [summaryEvents, errorEvent]

end Dispatched

/-! ## What the summary says -/

section Handle

variable {policy : Policy} {exchange : Exchange} {chance : Chance}
  {rotation : Rotation Net.Endpoint} {request : Request} {reply : Message}

variable (policy exchange chance rotation request) in
theorem call_handle :
    (handle policy exchange chance rotation request).call =
      (dispatch policy exchange chance rotation request).call :=
  (Dispatched.summary_and_events_handled _ request chance.elapsedMillis).1

variable (policy exchange chance rotation request) in
/-- Handling a request leaves what judging it and dispatching it have left, and the response code
of the reply. If there is a reply, the event that sums up is the last one. -/
theorem summary_and_events_handle :
    let judged := request.judged? chance.requestId
    let handled := handle policy exchange chance rotation request
    handled.summary =
        { requestId := chance.requestId.toOption
          qname := judged.map fun question => question.qname
          qtype := judged.map fun question => question.qtype
          blocked := (Judgement.ofRequest policy chance.requestId request).verdict.isBlocked
          upstream := handled.call.map fun call => call.upstream
          responseCode := handled.reply.bind fun reply => reply.flags.responseCode? } ∧
      match handled.reply with
      | none => summaryEvents handled.events = summaryEvents (exchange.logged handled.call)
      | some _ =>
          ∃ earlier, summaryEvents earlier = summaryEvents (exchange.logged handled.call) ∧
            handled.events =
              earlier.push (summaryEvent request handled.summary chance.elapsedMillis) := by
  intro judged handled
  have call_eq : handled.call = (dispatch policy exchange chance rotation request).call :=
    call_handle policy exchange chance rotation request
  obtain ⟨judged_eq, _⟩ := Judgement.summary_and_events_ofRequest policy chance.requestId request
  obtain ⟨dispatched_eq, events_eq⟩ :=
    summary_and_events_dispatch policy exchange chance rotation request
  rw [judged_eq, ← call_eq] at dispatched_eq
  rw [← call_eq] at events_eq
  have finish : match handled.reply with
      | none => handled.summary = _ ∧ summaryEvents handled.events = _
      | some reply =>
          handled.summary = _ ∧ ∃ earlier, summaryEvents earlier = _ ∧ handled.events = _ :=
    (Dispatched.summary_and_events_handled _ request chance.elapsedMillis).2
  rw [← events_eq]
  cases replied : handled.reply with
  | none =>
      rw [replied] at finish
      exact ⟨finish.1.trans dispatched_eq, finish.2⟩
  | some reply =>
      rw [replied, dispatched_eq] at finish
      exact finish

/-- A reply has a response code with a name. -/
theorem RepliesTo.exists_rcode_eq (replies : RepliesTo request exchange reply) :
    ∃ code : ResponseCode, reply.flags.rcode = code.code := by
  cases replies with
  | failed read error => exact ⟨error.responseCode, rfl⟩
  | @unread error reply made =>
      obtain ⟨_, rfl⟩ := exists_of_headerReply made
      exact ⟨error.responseCode, rfl⟩
  | blocked read first data => exact ⟨.noError, rfl⟩
  | relayed read exchanged => exact ⟨.noError, rfl⟩

/-- Nobody is asked for a request that gets no reply. -/
theorem call_eq_none_of_reply_eq_none
    (unreplied : (handle policy exchange chance rotation request).reply = none) :
    (handle policy exchange chance rotation request).call = none := by
  rw [call_handle, call_dispatch]
  cases judged : (Judgement.ofRequest policy chance.requestId request).verdict with
  | failed error => rfl
  | blocked reply => rfl
  | cleared query question =>
      -- What is cleared can be read, and what can be read is replied to.
      obtain ⟨_, read, _⟩ := Judgement.exists_of_verdict_cleared judged
      rw [handle, Dispatched.reply_handled] at unreplied
      unfold Request.replyTo? at unreplied
      split at unreplied
      · cases unreplied
      · rw [Request.errorReply?, read] at unreplied
        cases unreplied

/-- A name is blocked exactly when nobody is asked, and still the reply is the address of all
zeros. -/
theorem isBlocked_iff_reply_eq
    (replied : (handle policy exchange chance rotation request).reply = some reply) :
    (Judgement.ofRequest policy chance.requestId request).verdict.isBlocked = true ↔
      (handle policy exchange chance rotation request).call = none ∧
        ∃ query question, Asks request query question ∧
          reply = query.replyWith .noError [zeroRecord question] := by
  rw [handle, Dispatched.reply_handled, result_dispatch] at replied
  rw [call_handle, call_dispatch]
  cases judged : (Judgement.ofRequest policy chance.requestId request).verdict with
  | failed error =>
      rw [judged] at replied
      refine iff_of_false Bool.false_ne_true ?_
      rintro ⟨_, query, question, asks, rfl⟩
      have unanswered := request.records_of_errorReply? replied
      cases unanswered
  | blocked own =>
      rw [judged] at replied
      cases replied
      obtain ⟨query, question, rdata, read, first, data, rfl⟩ :=
        Judgement.exists_of_verdict_blocked judged
      obtain ⟨_, rfl⟩ := blockedData?_eq_some_iff.mp data
      exact iff_of_true rfl ⟨rfl, query, question, ⟨read, first⟩, rfl⟩
  | cleared query question =>
      refine iff_of_false Bool.false_ne_true ?_
      rintro ⟨uncalled, _⟩
      cases uncalled

end Handle

/-! ## What the event says -/

/-- The value that an event has under a name. -/
def Log.Event.value? (event : Log.Event) (name : String) : Option Log.Value :=
  event.fields.lookup name

/-- Under what names an event that sums up has values. -/
def summaryNames : List String :=
  ["request.id", "remote_addr", "transport", "query.fqdn", "query.qtype", "blocked",
    "nameserver", "rcode", "elapsed_ms"]

/-- An event tells an operator what happened to a request that has a reply: who sent it and how,
what was asked, whether the reply was made here, which upstream was asked, what the reply says of
it, and how long it all took. What there is nothing to say of is left empty. -/
structure Tells
    (chance : Chance)
    (request : Request)
    (call : Option Call)
    (reply : Message)
    (event : Log.Event) : Prop where
  level_eq : event.level = .info
  message_eq : event.message = "query handled"
  names_eq : event.fields.map Prod.fst = summaryNames
  identified : ∀ id, chance.requestId = .ok id → event.value? "request.id" = some (.text id)
  unidentified : ∀ failure, chance.requestId = .error failure →
    event.value? "request.id" = some (.text "-")
  client : event.value? "remote_addr" = some (.text request.client.text)
  transport : event.value? "transport" = some (.text request.arrival.text)
  asked : ∀ id query question, chance.requestId = .ok id → Asks request query question →
    event.value? "query.fqdn" = some (.text question.qname.fqdn) ∧
      event.value? "query.qtype" = some (.text question.qtype.text)
  unasked : (¬∃ id query question, chance.requestId = .ok id ∧ Asks request query question) →
    event.value? "query.fqdn" = some (.text "") ∧ event.value? "query.qtype" = some (.text "")
  blocked : ∃ blocked, event.value? "blocked" = some (.flag blocked) ∧
    (blocked = true ↔ call = none ∧ ∃ query question, Asks request query question ∧
      reply = query.replyWith .noError [zeroRecord question])
  called : ∀ asked, call = some asked →
    event.value? "nameserver" = some (.text asked.upstream.text)
  uncalled : call = none → event.value? "nameserver" = some (.text "")
  responseCode : ∃ code : ResponseCode, reply.flags.rcode = code.code ∧
    event.value? "rcode" = some (.text code.text)
  elapsed : event.value? "elapsed_ms" = some (.number chance.elapsedMillis.toNat)

/-- A summary tells what happened to a request that has a reply. An upstream may answer with the
address of all zeros too; it is the blocked answer only if nobody was asked. The last event tells
it too, and besides what the exchange itself logs it is the only one that sums up. -/
structure SumsUp
    (exchange : Exchange)
    (chance : Chance)
    (request : Request)
    (handled : Handled)
    (reply : Message) : Prop where
  responseCode_eq : ∃ code : ResponseCode, handled.summary.responseCode = some code ∧
    reply.flags.rcode = code.code
  requestId_iff : ∀ id, handled.summary.requestId = some id ↔ chance.requestId = .ok id
  qname_iff : ∀ qname, handled.summary.qname = some qname ↔
    (∃ id, chance.requestId = .ok id) ∧
      ∃ query question, Asks request query question ∧ question.qname = qname
  qtype_iff : ∀ qtype, handled.summary.qtype = some qtype ↔
    (∃ id, chance.requestId = .ok id) ∧
      ∃ query question, Asks request query question ∧ question.qtype = qtype
  blocked_iff : handled.summary.blocked = true ↔
    handled.call = none ∧ ∃ query question, Asks request query question ∧
      reply = query.replyWith .noError [zeroRecord question]
  upstream_iff : ∀ upstream, handled.summary.upstream = some upstream ↔
    ∃ call, handled.call = some call ∧ call.upstream = upstream
  exclusive : ¬(handled.summary.blocked = true ∧ handled.summary.upstream ≠ none)
  told : ∃ event, Tells chance request handled.call reply event ∧
    handled.events.back? = some event ∧
    summaryEvents handled.events = summaryEvents (exchange.logged handled.call) ++ [event] ∧
    ∀ carrier links, exchange = Upstream.exchange carrier links →
      summaryEvents handled.events = [event]

theorem tells_of_reply_handle
    {policy : Policy}
    {exchange : Exchange}
    {chance : Chance}
    {rotation : Rotation Net.Endpoint}
    {request : Request}
    {reply : Message}
    (replied : (handle policy exchange chance rotation request).reply = some reply) :
    Tells chance request (handle policy exchange chance rotation request).call reply
      (summaryEvent request (handle policy exchange chance rotation request).summary
        chance.elapsedMillis) := by
  obtain ⟨summary_eq, _⟩ := summary_and_events_handle policy exchange chance rotation request
  rw [replied, Option.bind_some] at summary_eq
  rw [summary_eq]
  constructor
  case level_eq => rfl
  case message_eq => rfl
  case names_eq => rfl
  case identified =>
    intro id made
    rw [made]
    rfl
  case unidentified =>
    intro failure unmade
    rw [unmade]
    rfl
  case client => rfl
  case transport => rfl
  case asked =>
    intro id query question made asks
    rw [Request.judged?_eq_some_iff.mpr ⟨⟨id, made⟩, query, asks⟩]
    exact ⟨rfl, rfl⟩
  case unasked =>
    intro unasked
    cases judged : request.judged? chance.requestId with
    | none => exact ⟨rfl, rfl⟩
    | some question =>
        obtain ⟨⟨id, made⟩, query, asks⟩ := Request.judged?_eq_some_iff.mp judged
        exact absurd ⟨id, query, question, made, asks⟩ unasked
  case blocked => exact ⟨_, rfl, isBlocked_iff_reply_eq replied⟩
  case called =>
    intro asked called
    rw [called]
    rfl
  case uncalled =>
    intro uncalled
    rw [uncalled]
    rfl
  case responseCode =>
    obtain ⟨code, rcode_eq⟩ := (repliesTo_of_reply_handle replied).exists_rcode_eq
    refine ⟨code, rcode_eq, ?_⟩
    rw [Flags.responseCode?, rcode_eq, code.ofCode?_code]
    rfl
  case elapsed => rfl

theorem sumsUp_of_reply_handle
    {policy : Policy}
    {exchange : Exchange}
    {chance : Chance}
    {rotation : Rotation Net.Endpoint}
    {request : Request}
    {reply : Message}
    (replied : (handle policy exchange chance rotation request).reply = some reply) :
    SumsUp exchange chance request (handle policy exchange chance rotation request) reply := by
  obtain ⟨summary_eq, events_eq⟩ :=
    summary_and_events_handle policy exchange chance rotation request
  obtain ⟨code, rcode_eq⟩ := (repliesTo_of_reply_handle replied).exists_rcode_eq
  have blocked_iff := isBlocked_iff_reply_eq replied
  rw [replied] at events_eq
  obtain ⟨earlier, earlier_eq, pushed⟩ := events_eq
  rw [replied, Option.bind_some] at summary_eq
  constructor
  case responseCode_eq =>
    refine ⟨code, ?_, rcode_eq⟩
    rw [summary_eq, Flags.responseCode?, rcode_eq, code.ofCode?_code]
  case requestId_iff =>
    intro id
    rw [summary_eq]
    cases chance.requestId <;> simp [Except.toOption]
  case qname_iff =>
    intro qname
    rw [summary_eq, Request.map_judged?_eq_some_iff]
  case qtype_iff =>
    intro qtype
    rw [summary_eq, Request.map_judged?_eq_some_iff]
  case blocked_iff => rw [summary_eq, blocked_iff]
  case upstream_iff =>
    intro upstream
    rw [summary_eq, Option.map_eq_some_iff]
  case exclusive =>
    rw [summary_eq]
    rintro ⟨blocked, asked⟩
    rw [(blocked_iff.mp blocked).1] at asked
    exact asked rfl
  case told =>
    refine ⟨_, tells_of_reply_handle replied, ?_, ?_, ?_⟩
    · rw [pushed, Array.back?_push]
    · rw [pushed, summaryEvents_push, earlier_eq]
    · rintro carrier links rfl
      rw [pushed, summaryEvents_push, earlier_eq, Upstream.summaryEvents_logged, List.nil_append]

/-- The summary of a request that has a reply tells what happened to it, and it is logged once. A
request without a reply is not summed up. The call that is recorded is the only one that is made:
what comes of a request depends on nothing else that the upstreams would say. -/
theorem summary_tells_what_happened
    (policy : Policy)
    (exchange : Exchange)
    (chance : Chance)
    (rotation : Rotation Net.Endpoint)
    (request : Request) :
    let handled := handle policy exchange chance rotation request
    (match handled.reply with
      | none => handled.summary.responseCode = none ∧ summaryEvents handled.events = []
      | some reply => SumsUp exchange chance request handled reply) ∧
      ∀ other : Exchange,
        (∀ call, handled.call = some call →
          other call.query call.upstream = exchange call.query call.upstream) →
        handle policy other chance rotation request = handled := by
  intro handled
  constructor
  · cases replied : handled.reply with
    | none =>
        obtain ⟨summary_eq, events_eq⟩ :=
          summary_and_events_handle policy exchange chance rotation request
        rw [replied, call_eq_none_of_reply_eq_none replied] at events_eq
        rw [replied] at summary_eq
        exact ⟨congrArg Summary.responseCode summary_eq, events_eq⟩
    | some reply => exact sumsUp_of_reply_handle replied
  · intro other same
    simp only [handled, call_handle] at same
    rw [handle, dispatch_congr policy exchange chance rotation request same]
    rfl

end Sinkhole
