import Sinkhole.Proofs.Dns.RoundTrip
import Sinkhole.Proofs.Resolver.Dispatch

/-!
# The rules that decide a request

A request is decided by the first of ten rules that applies to it. A rule says when it
applies, without regard to the rules before it, what the result is and whether an upstream
is asked. No rule can decide a request in two ways, so the order of the rules settles
everything.

A reply that reports no error has an answer: the blocked one, or those of a response with
the id of the call. What came with another id is in no reply, whatever it was.
-/

namespace Sinkhole

open Dns

/-- What a request comes to, and the call that is made for it, if one is. -/
structure Decision where
  result : Except ResolveError Message
  call : Option Call := none

/-- The decision that a resolution holds. -/
def Resolution.decision (resolution : Resolution) : Decision :=
  { result := resolution.result, call := resolution.call }

/-! ## The first rule that applies -/

/-- The first of some rules that applies decides in the given way. -/
inductive DecidedBy {ρ δ : Type} (Decides : ρ → δ → Prop) : List ρ → δ → Prop
  | here
      {rule : ρ}
      {rules : List ρ}
      {decision : δ}
      (applies : Decides rule decision) :
      DecidedBy Decides (rule :: rules) decision
  | later
      {rule : ρ}
      {rules : List ρ}
      {decision : δ}
      (passed : ∀ other, ¬Decides rule other)
      (decided : DecidedBy Decides rules decision) :
      DecidedBy Decides (rule :: rules) decision

/-- Rules of which each decides in one way at most decide so in any order. -/
theorem DecidedBy.unique
    {ρ δ : Type}
    {Decides : ρ → δ → Prop}
    (single : ∀ rule first second, Decides rule first → Decides rule second → first = second)
    {rules : List ρ}
    {first second : δ}
    (firstDecided : DecidedBy Decides rules first)
    (secondDecided : DecidedBy Decides rules second) :
    first = second := by
  induction firstDecided with
  | here applies =>
      cases secondDecided with
      | here otherApplies => exact single _ _ _ applies otherApplies
      | later passed _ => exact absurd applies (passed _)
  | later passed _ hypothesis =>
      cases secondDecided with
      | here otherApplies => exact absurd otherApplies (passed _)
      | later _ otherDecided => exact hypothesis otherDecided

/-! ## What the rules say -/

/-- The rules that decide requests. -/
inductive Rule
  | unidentified
  | unreadable
  | noQuestion
  | otherClass
  | otherType
  | blocked
  | unanswered
  | otherId
  | noAnswers
  | answered
  deriving DecidableEq

/-- The rules in the order in which they are tried. -/
def Rule.inOrder : List Rule :=
  [.unidentified, .unreadable, .noQuestion, .otherClass, .otherType, .blocked, .unanswered,
    .otherId, .noAnswers, .answered]

/-- A request holds a query whose first question is the given one. -/
structure Asks (request : Request) (query : Message) (question : Question) : Prop where
  read : request.message = .ok query
  first : query.questions.head? = some question

/-- A reply to a query: its id, its first question, what it says of recursion and of
checking, a response code and answers. -/
def Dns.Message.replyWith
    (query : Message)
    (responseCode : ResponseCode)
    (answers : List Record) :
    Message :=
  { id := query.id
    flags := {
      response := true
      opcode := query.flags.opcode
      recursionDesired := query.flags.recursionDesired
      recursionAvailable := true
      checkingDisabled := query.flags.checkingDisabled
      rcode := responseCode.code }
    questions := query.questions.take 1
    answers }

theorem answerReply_eq (query : Message) (answers : List Record) :
    answerReply query answers = query.replyWith .noError answers :=
  rfl

theorem errorReply_eq (query : Message) (error : ResolveError) :
    errorReply query error = query.replyWith error.responseCode [] :=
  rfl

/-- The address of all zeros for an address type. -/
def zeroAddress (qtype : RecordType) : RData :=
  if qtype = .a then .ipv4 ⟨Vector.replicate 4 0⟩ else .ipv6 ⟨Vector.replicate 16 0⟩

/-- The data of the blocked answer is there for the two address types alone, and is the
address of all zeros. -/
theorem blockedData?_eq_some_iff {qtype : RecordType} {rdata : RData} :
    blockedData? qtype = some rdata ↔
      (qtype = .a ∨ qtype = .aaaa) ∧ rdata = zeroAddress qtype := by
  have types_ne : RecordType.aaaa ≠ RecordType.a := by decide
  unfold blockedData? zeroAddress
  by_cases a : qtype = .a
  · simp only [a, if_true, Option.some_inj, true_or, true_and, eq_comm]
    rfl
  · by_cases aaaa : qtype = .aaaa
    · simp only [aaaa, types_ne, if_true, if_false, Option.some_inj, or_true, true_and, eq_comm]
      rfl
    · simp [a, aaaa]

/-- The answer to a question for a blocked name: the name as it was asked for, with the
address of all zeros. -/
def zeroRecord (question : Question) : Record :=
  { name := question.qname
    rtype := question.qtype
    rclass := .internet
    ttl := 0
    rdata := zeroAddress question.qtype }

/-- A query for an address is blocked or cleared, as the policy says of the name. -/
theorem Asks.verdict_of_address
    {request : Request}
    {query : Message}
    {question : Question}
    (asks : Asks request query question)
    (internet : question.qclass = .internet)
    (address : question.qtype = .a ∨ question.qtype = .aaaa)
    (policy : Policy)
    (requestId : String) :
    (Judgement.ofRequest policy (.ok requestId) request).verdict =
      if policy question.qname.canonical then
        .blocked (query.replyWith .noError [zeroRecord question])
      else
        .cleared query question := by
  have data := blockedData?_eq_some_iff.mpr ⟨address, rfl⟩
  rw [Judgement.verdict_ofRequest, asks.read]
  simp only [asks.first, internet, if_true, data, answerReply_eq]
  rfl

/-- What a request meets: the names that are blocked, what chance provides, how upstreams
answer, and the upstream that would be chosen. -/
structure Setting where
  policy : Policy
  chance : Chance
  exchange : Exchange
  upstream : Net.Endpoint

/-- A query is on its way: the call repeats its first question and whether it asks for
recursion, with an id of its own and nothing else, and comes to the given outcome. -/
structure Calls
    (setting : Setting)
    (request : Request)
    (query : Message)
    (call : Call)
    (outcome : Except Failure Message) : Prop where
  asks : ∃ question, Asks request query question ∧
    call.query =
      { id := setting.chance.transactionId
        flags := { recursionDesired := query.flags.recursionDesired }
        questions := [question] }
  upstream_eq : call.upstream = setting.upstream
  outcome_eq : (setting.exchange call.query call.upstream).result = outcome

/-- A rule applies to a request and decides it in the given way. -/
inductive Rule.Decides (setting : Setting) (request : Request) : Rule → Decision → Prop
  | unidentified
      {failure : Failure}
      (missing : setting.chance.requestId = .error failure) :
      Decides setting request .unidentified { result := .error (.requestId failure) }
  | unreadable
      {error : ReadError}
      (unread : request.message = .error error) :
      Decides setting request .unreadable { result := .error (.invalidRequest error.message) }
  | noQuestion
      {query : Message}
      (read : request.message = .ok query)
      (empty : query.questions = []) :
      Decides setting request .noQuestion { result := .error .noQuestion }
  | otherClass
      {query : Message}
      {question : Question}
      (asks : Asks request query question)
      (other : question.qclass ≠ .internet) :
      Decides setting request .otherClass
        { result := .error (.unsupportedClass question.qclass) }
  | otherType
      {query : Message}
      {question : Question}
      (asks : Asks request query question)
      (other : ¬(question.qtype = .a ∨ question.qtype = .aaaa)) :
      Decides setting request .otherType
        { result := .error (.unsupportedType question.qtype) }
  | blocked
      {query : Message}
      {question : Question}
      (asks : Asks request query question)
      (listed : setting.policy question.qname.canonical = true) :
      Decides setting request .blocked
        { result := .ok (query.replyWith .noError [zeroRecord question]) }
  | unanswered
      {query : Message}
      {call : Call}
      {failure : Failure}
      (calls : Calls setting request query call (.error failure)) :
      Decides setting request .unanswered
        { result := .error (.exchange failure), call := some call }
  | otherId
      {query response : Message}
      {call : Call}
      (calls : Calls setting request query call (.ok response))
      (other : response.id ≠ call.query.id) :
      Decides setting request .otherId
        { result := .error (.idMismatch call.query.id response.id), call := some call }
  | noAnswers
      {query response : Message}
      {call : Call}
      (calls : Calls setting request query call (.ok response))
      (empty : response.answers = []) :
      Decides setting request .noAnswers { result := .error .emptyAnswer, call := some call }
  | answered
      {query response : Message}
      {call : Call}
      (calls : Calls setting request query call (.ok response)) :
      Decides setting request .answered
        { result := .ok (query.replyWith .noError response.answers), call := some call }

/-! ## Each rule decides in one way -/

theorem Asks.unique
    {request : Request}
    {query otherQuery : Message}
    {question otherQuestion : Question}
    (asks : Asks request query question)
    (otherAsks : Asks request otherQuery otherQuestion) :
    query = otherQuery ∧ question = otherQuestion := by
  have query_eq : query = otherQuery :=
    Except.ok.inj (asks.read.symm.trans otherAsks.read)
  subst query_eq
  exact ⟨rfl, Option.some.inj (asks.first.symm.trans otherAsks.first)⟩

theorem Calls.unique
    {setting : Setting}
    {request : Request}
    {query otherQuery : Message}
    {call otherCall : Call}
    {outcome otherOutcome : Except Failure Message}
    (calls : Calls setting request query call outcome)
    (otherCalls : Calls setting request otherQuery otherCall otherOutcome) :
    query = otherQuery ∧ call = otherCall ∧ outcome = otherOutcome := by
  obtain ⟨⟨question, asks, query_eq⟩, upstream_eq, outcome_eq⟩ := calls
  obtain ⟨⟨otherQuestion, otherAsks, otherQuery_eq⟩, otherUpstream_eq, otherOutcome_eq⟩ :=
    otherCalls
  obtain ⟨rfl, rfl⟩ := asks.unique otherAsks
  have call_eq : call = otherCall := by
    cases call
    cases otherCall
    simp_all
  subst call_eq
  exact ⟨rfl, rfl, outcome_eq.symm.trans otherOutcome_eq⟩

theorem Rule.Decides.unique
    {setting : Setting}
    {request : Request}
    {rule : Rule}
    {first second : Decision}
    (firstDecides : rule.Decides setting request first)
    (secondDecides : rule.Decides setting request second) :
    first = second := by
  cases firstDecides with
  | unidentified missing =>
      cases secondDecides with
      | unidentified otherMissing =>
          cases missing.symm.trans otherMissing
          rfl
  | unreadable unread =>
      cases secondDecides with
      | unreadable otherUnread =>
          cases unread.symm.trans otherUnread
          rfl
  | noQuestion =>
      cases secondDecides
      rfl
  | otherClass asks =>
      cases secondDecides with
      | otherClass otherAsks =>
          obtain ⟨rfl, rfl⟩ := asks.unique otherAsks
          rfl
  | otherType asks =>
      cases secondDecides with
      | otherType otherAsks =>
          obtain ⟨rfl, rfl⟩ := asks.unique otherAsks
          rfl
  | blocked asks =>
      cases secondDecides with
      | blocked otherAsks =>
          obtain ⟨rfl, rfl⟩ := asks.unique otherAsks
          rfl
  | unanswered calls =>
      cases secondDecides with
      | unanswered otherCalls =>
          obtain ⟨rfl, rfl, outcome_eq⟩ := calls.unique otherCalls
          cases outcome_eq
          rfl
  | otherId calls =>
      cases secondDecides with
      | otherId otherCalls =>
          obtain ⟨rfl, rfl, outcome_eq⟩ := calls.unique otherCalls
          cases outcome_eq
          rfl
  | noAnswers calls =>
      cases secondDecides with
      | noAnswers otherCalls =>
          obtain ⟨rfl, rfl, _⟩ := calls.unique otherCalls
          rfl
  | answered calls =>
      cases secondDecides with
      | answered otherCalls =>
          obtain ⟨rfl, rfl, outcome_eq⟩ := calls.unique otherCalls
          cases outcome_eq
          rfl

/-! ## Rules that are passed -/

section Passed

variable {setting : Setting} {request : Request} {query : Message} {question : Question}

theorem Rule.not_unidentified
    {requestId : String}
    (identified : setting.chance.requestId = .ok requestId)
    (decision : Decision) :
    ¬Decides setting request .unidentified decision := by
  intro decides
  cases decides with
  | unidentified missing => cases identified.symm.trans missing

theorem Rule.not_unreadable
    (read : request.message = .ok query)
    (decision : Decision) :
    ¬Decides setting request .unreadable decision := by
  intro decides
  cases decides with
  | unreadable unread => cases read.symm.trans unread

theorem Rule.not_noQuestion
    (asks : Asks request query question)
    (decision : Decision) :
    ¬Decides setting request .noQuestion decision := by
  intro decides
  cases decides with
  | noQuestion read empty =>
      cases asks.read.symm.trans read
      have first := asks.first
      rw [empty] at first
      cases first

theorem Rule.not_otherClass
    (asks : Asks request query question)
    (internet : question.qclass = .internet)
    (decision : Decision) :
    ¬Decides setting request .otherClass decision := by
  intro decides
  cases decides with
  | otherClass otherAsks other =>
      obtain ⟨rfl, rfl⟩ := asks.unique otherAsks
      exact other internet

theorem Rule.not_otherType
    (asks : Asks request query question)
    (address : question.qtype = .a ∨ question.qtype = .aaaa)
    (decision : Decision) :
    ¬Decides setting request .otherType decision := by
  intro decides
  cases decides with
  | otherType otherAsks other =>
      obtain ⟨rfl, rfl⟩ := asks.unique otherAsks
      exact other address

theorem Rule.not_blocked
    (asks : Asks request query question)
    (unlisted : setting.policy question.qname.canonical = false)
    (decision : Decision) :
    ¬Decides setting request .blocked decision := by
  intro decides
  cases decides with
  | blocked otherAsks listed =>
      obtain ⟨rfl, rfl⟩ := asks.unique otherAsks
      exact Bool.false_ne_true (unlisted.symm.trans listed)

end Passed

/-! ## The rules against the resolution -/

/-- The decision that a verdict leads to. -/
def Verdict.decision (setting : Setting) : Verdict → Decision
  | .failed error => { result := .error error }
  | .blocked reply => { result := .ok reply }
  | .cleared query question =>
      let call := Call.on setting.chance.transactionId query question setting.upstream
      { result :=
          (Settlement.ofExchange query question call
            (setting.exchange call.query call.upstream).result).result
        call := some call }

/-- A resolution decides by the verdict on the request. -/
theorem decision_resolve
    {σ : Type}
    (policy : Policy)
    (choose : Chooser σ)
    (exchange : Exchange)
    (chance : Chance)
    (state : σ)
    (request : Request) :
    (resolve policy choose exchange chance state request).1.decision =
      (Judgement.ofRequest policy chance.requestId request).verdict.decision
        { policy, chance, exchange, upstream := (choose state).1 } := by
  cases judged : (Judgement.ofRequest policy chance.requestId request).verdict with
  | failed error =>
      rw [resolve_of_failed judged]
      rfl
  | blocked reply =>
      rw [resolve_of_blocked judged]
      rfl
  | cleared query question =>
      rw [resolve_of_cleared judged]
      rfl

section

variable {setting : Setting} {request : Request} {query : Message} {question : Question}

/-- The rules that remain once an upstream has been asked. -/
theorem decidedBy_of_calls
    {call : Call}
    {outcome : Except Failure Message}
    (calls : Calls setting request query call outcome) :
    DecidedBy (Rule.Decides setting request) [.unanswered, .otherId, .noAnswers, .answered]
      { result := (Settlement.ofExchange query question call outcome).result
        call := some call } := by
  rw [Settlement.result_ofExchange]
  cases outcome with
  | error failure => exact .here (.unanswered calls)
  | ok response =>
      have responded : ∀ decision, ¬Rule.Decides setting request .unanswered decision := by
        intro decision decides
        cases decides with
        | unanswered otherCalls => cases (calls.unique otherCalls).2.2
      apply DecidedBy.later responded
      by_cases sameId : response.id = call.query.id
      · have expected : ∀ decision, ¬Rule.Decides setting request .otherId decision := by
          intro decision decides
          cases decides with
          | otherId otherCalls other =>
              obtain ⟨_, rfl, outcome_eq⟩ := calls.unique otherCalls
              cases outcome_eq
              exact other sameId
        apply DecidedBy.later expected
        by_cases empty : response.answers = []
        · simp only [sameId, ne_eq, not_true_eq_false, if_false, empty, if_true]
          exact .here (.noAnswers calls empty)
        · simp only [sameId, ne_eq, not_true_eq_false, if_false, empty]
          have present : ∀ decision, ¬Rule.Decides setting request .noAnswers decision := by
            intro decision decides
            cases decides with
            | noAnswers otherCalls otherEmpty =>
                cases (calls.unique otherCalls).2.2
                exact empty otherEmpty
          exact .later present (.here (.answered calls))
      · simp only [ne_eq, sameId, not_false_eq_true, if_true]
        exact .here (.otherId calls sameId)

/-- A request that is cleared makes its call. -/
theorem Asks.calls (asks : Asks request query question) :
    let call := Call.on setting.chance.transactionId query question setting.upstream
    Calls setting request query call (setting.exchange call.query call.upstream).result :=
  ⟨⟨question, asks, rfl⟩, rfl, rfl⟩

/-- The rules that remain for a question of the Internet class. -/
theorem decidedBy_of_internet
    (asks : Asks request query question)
    (internet : question.qclass = .internet)
    {requestId : String}
    (identified : setting.chance.requestId = .ok requestId) :
    DecidedBy (Rule.Decides setting request)
      [.otherType, .blocked, .unanswered, .otherId, .noAnswers, .answered]
      ((Judgement.ofRequest setting.policy setting.chance.requestId request).verdict.decision
        setting) := by
  rw [identified]
  by_cases address : question.qtype = .a ∨ question.qtype = .aaaa
  · apply DecidedBy.later (Rule.not_otherType asks address)
    rw [asks.verdict_of_address internet address]
    cases listed : setting.policy question.qname.canonical with
    | true => exact .here (.blocked asks listed)
    | false => exact .later (Rule.not_blocked asks listed) (decidedBy_of_calls asks.calls)
  · have data : blockedData? question.qtype = none := by
      rw [Option.eq_none_iff_forall_ne_some]
      intro rdata present
      exact address (blockedData?_eq_some_iff.mp present).1
    rw [Judgement.verdict_ofRequest, asks.read]
    simp only [asks.first, internet, if_true, data]
    exact .here (.otherType asks address)

/-- Every request is decided by the first rule that applies to it. -/
theorem decidedBy_inOrder (setting : Setting) (request : Request) :
    DecidedBy (Rule.Decides setting request) Rule.inOrder
      ((Judgement.ofRequest setting.policy setting.chance.requestId request).verdict.decision
        setting) := by
  cases identified : setting.chance.requestId with
  | error failure =>
      rw [Judgement.verdict_ofRequest]
      exact .here (.unidentified identified)
  | ok requestId =>
      apply DecidedBy.later (Rule.not_unidentified identified)
      cases read : request.message with
      | error error =>
          rw [Judgement.verdict_ofRequest, read]
          exact .here (.unreadable read)
      | ok query =>
          apply DecidedBy.later (Rule.not_unreadable read)
          cases first : query.questions.head? with
          | none =>
              rw [Judgement.verdict_ofRequest, read]
              simp only [first]
              exact .here (.noQuestion read (List.head?_eq_none_iff.mp first))
          | some question =>
              have asks : Asks request query question := ⟨read, first⟩
              apply DecidedBy.later (Rule.not_noQuestion asks)
              by_cases internet : question.qclass = .internet
              · apply DecidedBy.later (Rule.not_otherClass asks internet)
                rw [← identified]
                exact decidedBy_of_internet asks internet identified
              · rw [Judgement.verdict_ofRequest, read]
                simp only [first, internet, if_false]
                exact .here (.otherClass asks internet)

end

/-! ## What a resolution comes to -/

section Resolved

variable {σ : Type} {policy : Policy} {choose : Chooser σ} {exchange : Exchange}
  {chance : Chance} {state : σ} {request : Request}

/-- A reply that reports no error replies to a query that could be read. It is the blocked
answer, for which nobody is asked, or it passes on what came back with the id of the call. -/
theorem exists_of_result_resolve
    {reply : Message}
    (succeeded : (resolve policy choose exchange chance state request).1.result = .ok reply) :
    ∃ query, request.message = .ok query ∧
      ((∃ question, (resolve policy choose exchange chance state request).1.call = none ∧
          reply = query.replyWith .noError [zeroRecord question]) ∨
        ∃ response call,
          (resolve policy choose exchange chance state request).1.call = some call ∧
            (exchange call.query call.upstream).result = .ok response ∧
            response.id = call.query.id ∧ response.answers ≠ [] ∧
            reply = query.replyWith .noError response.answers) := by
  cases judged : (Judgement.ofRequest policy chance.requestId request).verdict with
  | failed error =>
      rw [resolve_of_failed judged] at succeeded
      cases succeeded
  | blocked blockedReply =>
      rw [resolve_of_blocked judged] at succeeded ⊢
      cases succeeded
      obtain ⟨query, question, rdata, read, _, data, rfl⟩ :=
        Judgement.exists_of_verdict_blocked judged
      obtain ⟨_, rfl⟩ := blockedData?_eq_some_iff.mp data
      exact ⟨query, read, Or.inl ⟨question, rfl, rfl⟩⟩
  | cleared query question =>
      rw [resolve_of_cleared judged] at succeeded ⊢
      obtain ⟨response, exchanged, sameId, answered, rfl⟩ :=
        Settlement.exists_of_result_ofExchange succeeded
      obtain ⟨_, read, _⟩ := Judgement.exists_of_verdict_cleared judged
      exact ⟨query, read, Or.inr ⟨response, _, rfl, exchanged, sameId, answered, rfl⟩⟩

/-- Nothing of a response with another id than that of the call gets into a reply. -/
theorem records_of_otherId
    {call : Call}
    {response reply : Message}
    (called : (resolve policy choose exchange chance state request).1.call = some call)
    (exchanged : (exchange call.query call.upstream).result = .ok response)
    (otherId : response.id ≠ call.query.id)
    (replied :
      request.replyTo? (resolve policy choose exchange chance state request).1.result =
        some reply) :
    reply.records = [] := by
  cases succeeded : (resolve policy choose exchange chance state request).1.result with
  | error error =>
      rw [succeeded] at replied
      exact Request.records_of_errorReply? replied
  | ok answer =>
      obtain ⟨_, _, ⟨_, uncalled, _⟩ | ⟨_, _, otherCalled, otherExchanged, sameId, _⟩⟩ :=
        exists_of_result_resolve succeeded
      · cases called.symm.trans uncalled
      · cases called.symm.trans otherCalled
        cases exchanged.symm.trans otherExchanged
        exact absurd sameId otherId

end Resolved

/-- The result of a request, and whether an upstream is asked, are what the first rule says
that applies. A reply that reports no error has answers and no other records, and nothing
of a response with another id than that of the call gets into a reply. -/
theorem resolve_decided_by_first_rule
    {σ : Type}
    (policy : Policy)
    (choose : Chooser σ)
    (exchange : Exchange)
    (chance : Chance)
    (state : σ)
    (request : Request) :
    let resolution := (resolve policy choose exchange chance state request).1
    let setting : Setting := { policy, chance, exchange, upstream := (choose state).1 }
    (∀ decision, resolution.decision = decision ↔
        DecidedBy (Rule.Decides setting request) Rule.inOrder decision) ∧
      (∀ reply, resolution.result = .ok reply →
        reply.flags.responseCode? = some .noError ∧ reply.answers ≠ [] ∧
          reply.authority = [] ∧ reply.additional = []) ∧
      ∀ call response reply, resolution.call = some call →
        (exchange call.query call.upstream).result = .ok response →
        response.id ≠ call.query.id →
        request.replyTo? resolution.result = some reply → reply.records = [] := by
  intro resolution setting
  refine ⟨fun decision => ?_, fun reply succeeded => ?_, ?_⟩
  · have decided := decidedBy_inOrder setting request
    have decision_eq := decision_resolve policy choose exchange chance state request
    constructor
    · rintro rfl
      rw [decision_eq]
      exact decided
    · intro otherDecided
      rw [decision_eq]
      exact DecidedBy.unique (fun _ _ _ first => first.unique) decided otherDecided
  · obtain ⟨query, _, ⟨question, _, rfl⟩ | ⟨response, _, _, _, _, answered, rfl⟩⟩ :=
      exists_of_result_resolve succeeded
    · exact ⟨rfl, List.cons_ne_nil _ _, rfl, rfl⟩
    · exact ⟨rfl, answered, rfl, rfl⟩
  · intro call response reply called exchanged otherId replied
    exact records_of_otherId called exchanged otherId replied

/-- A label of one letter. -/
def letterLabel : Label :=
  { octets := [97]
    nonempty := List.cons_ne_nil _ _
    length_le := by decide
    legal := List.forall_mem_singleton.mpr rfl }

/-- A query for the address of a name of one letter. -/
def letterQuery : Message :=
  { id := 1
    flags := { recursionDesired := true }
    questions := [{ qname := ⟨[letterLabel], by decide⟩, qtype := .a, qclass := .internet }] }

/-- The octets of the query for a name of one letter. -/
def letterOctets : Array UInt8 :=
  #[0, 1, 1, 0, 0, 1, 0, 0, 0, 0, 0, 0, 1, 97, 0, 0, 1, 0, 1]

theorem decode_letterOctets : Message.decode letterOctets = .ok letterQuery := by
  have wellFormed : letterQuery.WellFormed :=
    ⟨by decide, by decide, by decide⟩
  exact Message.decode_encode wellFormed (Message.encode_eq_ok_iff.mpr ⟨by decide, by decide⟩)

/-- A query is answered with an address under another id. The client learns of the failure
alone. -/
theorem resolve_decided_by_first_rule_spoofed :
    let upstream : Net.Endpoint := { address := .ipv4 .unspecified, port := 53 }
    let spoof : Record := ⟨.root, .a, .internet, 60, .ipv4 (.ofOctets 6 6 6 6)⟩
    let exchange : Exchange := fun _ _ => { result := .ok { id := 8, answers := [spoof] } }
    let request : Request := ⟨.datagram, upstream, letterOctets⟩
    let choose : Chooser Nat := fun turn => (upstream, turn + 1)
    let chance : Chance := { requestId := .ok "0", transactionId := 7, elapsedMillis := 1 }
    let resolution := (resolve (fun _ => false) choose exchange chance 0 request).1
    resolution.result = .error (.idMismatch 7 8) ∧
      ∃ reply, request.replyTo? resolution.result = some reply ∧ reply.records = [] := by
  intro upstream spoof exchange request choose chance resolution
  have read : request.message = .ok letterQuery := decode_letterOctets
  have judged : (Judgement.ofRequest (fun _ => false) chance.requestId request).verdict =
      .cleared letterQuery letterQuery.questions[0] := by
    rw [Judgement.verdict_ofRequest, read]
    rfl
  have resolved : resolve _ choose exchange chance 0 request = _ :=
    resolve_of_cleared judged choose 0
  have result_eq : resolution.result = .error (.idMismatch 7 8) := by
    simp only [resolution, resolved]
    rfl
  have called :
      resolution.call = some (Call.on 7 letterQuery letterQuery.questions[0] upstream) := by
    simp only [resolution, resolved]
    rfl
  have replied : request.replyTo? resolution.result =
      some (errorReply letterQuery (.idMismatch 7 8)) := by
    rw [result_eq, Request.replyTo?, Request.errorReply?, read]
  refine ⟨result_eq, _, replied, ?_⟩
  exact (resolve_decided_by_first_rule _ choose exchange chance 0 request).2.2 _ _ _ called rfl
    (by decide) replied

end Sinkhole
