import Sinkhole.Proofs.Resolver.Decision

/-!
# What a reply depends on

Of a query a reply keeps the id, the operation code, what it says of recursion and of
checking, and the first question. Two queries that agree in these get the same reply, even
if everything else about them differs: who sent them and how, what else they hold, and what
chance provides for each. What an upstream gets to see of a query is less than that: the
first question, and whether recursion is desired.
-/

namespace Sinkhole

open Dns

/-! ## Things that agree -/

/-- Two queries agree in all that a reply keeps of them. -/
structure Dns.Message.Akin (first second : Message) : Prop where
  id_eq : first.id = second.id
  opcode_eq : first.flags.opcode = second.flags.opcode
  recursionDesired_eq : first.flags.recursionDesired = second.flags.recursionDesired
  checkingDisabled_eq : first.flags.checkingDisabled = second.flags.checkingDisabled
  question_eq : first.questions.head? = second.questions.head?

/-- Two calls come to the same but for the id of the response, which is in both cases the id
of the call or in both cases another one. -/
inductive AlikeOutcomes (firstId secondId : UInt16) :
    Except Failure Message → Except Failure Message → Prop
  | failed (first second : Failure) :
      AlikeOutcomes firstId secondId (.error first) (.error second)
  | responded
      (response : Message)
      {first second : UInt16}
      (echoed : first = firstId ↔ second = secondId) :
      AlikeOutcomes firstId secondId
        (.ok { response with id := first }) (.ok { response with id := second })

/-- Upstreams that are asked in two ways, each with an id of its own, answer alike, as long as
the queries differ in their ids alone. -/
def AlikeExchanges (firstId secondId : UInt16) (first second : Exchange) : Prop :=
  ∀ (query : Message) (upstream : Net.Endpoint),
    AlikeOutcomes firstId secondId
      (first { query with id := firstId } upstream).result
      (second { query with id := secondId } upstream).result

/-- Two verdicts agree in what they tell the client and whom they ask. -/
inductive Verdict.Akin : Verdict → Verdict → Prop
  | failed (error : ResolveError) : Akin (.failed error) (.failed error)
  | blocked
      {first second : Message}
      (akin : first.Akin second)
      (answers : List Record) :
      Akin (.blocked (answerReply first answers)) (.blocked (answerReply second answers))
  | cleared
      {first second : Message}
      (akin : first.Akin second)
      (question : Question) :
      Akin (.cleared first question) (.cleared second question)

/-! ## Replies -/

/-- Of a query nothing else is in a reply. -/
theorem Dns.Message.Akin.replyWith_eq
    {first second : Message}
    (akin : first.Akin second)
    (responseCode : ResponseCode)
    (answers : List Record) :
    first.replyWith responseCode answers = second.replyWith responseCode answers := by
  simp only [replyWith, akin.id_eq, akin.opcode_eq, akin.recursionDesired_eq,
    akin.checkingDisabled_eq, List.take_one, akin.question_eq]

/-- What a result tells the client: a response code and answers. -/
def told : Except ResolveError Message → ResponseCode × List Record
  | .ok reply => (.noError, reply.answers)
  | .error error => (error.responseCode, [])

/-- A request that can be read is replied to with what its result tells. -/
theorem replyTo?_resolve
    {request : Request}
    {query : Message}
    (read : request.message = .ok query)
    {σ : Type}
    (policy : Policy)
    (choose : Chooser σ)
    (exchange : Exchange)
    (chance : Chance)
    (state : σ) :
    let result := (resolve policy choose exchange chance state request).1.result
    request.replyTo? result = some (query.replyWith (told result).1 (told result).2) := by
  intro result
  cases came : result with
  | error error =>
      rw [Request.replyTo?, Request.errorReply?, read]
      rfl
  | ok reply =>
      obtain ⟨otherQuery, otherRead, replied⟩ := exists_of_result_resolve came
      cases read.symm.trans otherRead
      rcases replied with ⟨question, _, rfl⟩ | ⟨response, _, _, _, _, _, rfl⟩
      · rfl
      · rfl

/-! ## Judging and settling -/

/-- Requests whose queries agree get verdicts that agree. -/
theorem Verdict.Akin.ofRequest
    {firstRequest secondRequest : Request}
    {firstQuery secondQuery : Message}
    (firstRead : firstRequest.message = .ok firstQuery)
    (secondRead : secondRequest.message = .ok secondQuery)
    (akin : firstQuery.Akin secondQuery)
    (policy : Policy)
    (firstId secondId : String) :
    Verdict.Akin
      (Judgement.ofRequest policy (.ok firstId) firstRequest).verdict
      (Judgement.ofRequest policy (.ok secondId) secondRequest).verdict := by
  rw [Judgement.verdict_ofRequest, Judgement.verdict_ofRequest, firstRead, secondRead]
  dsimp only
  rw [← akin.question_eq]
  cases firstQuery.questions.head? with
  | none => exact .failed _
  | some question =>
      dsimp only
      split
      · cases blockedData? question.qtype with
        | none => exact .failed _
        | some rdata =>
            dsimp only
            split
            · exact .blocked akin _
            · exact .cleared akin question
      · exact .failed _

/-- Calls that come to the same tell the client the same. -/
theorem told_ofExchange
    {firstCall secondCall : Call}
    {firstOutcome secondOutcome : Except Failure Message}
    (alike :
      AlikeOutcomes firstCall.query.id secondCall.query.id firstOutcome secondOutcome)
    (firstQuery secondQuery : Message)
    (question : Question) :
    told (Settlement.ofExchange firstQuery question firstCall firstOutcome).result =
      told (Settlement.ofExchange secondQuery question secondCall secondOutcome).result := by
  rw [Settlement.result_ofExchange, Settlement.result_ofExchange]
  cases alike with
  | failed first second => rfl
  | @responded response firstId secondId echoed =>
      -- The errors differ in the ids that they report, and tell the client the same.
      dsimp only
      by_cases sameId : firstId = firstCall.query.id
      · rw [if_neg (not_not_intro sameId), if_neg (not_not_intro (echoed.mp sameId))]
        split
        · rfl
        · rfl
      · rw [if_pos sameId, if_pos (mt echoed.mpr sameId)]
        rfl

/-- The query that goes to an upstream for a question, but for its id. -/
def bareQuery (question : Question) (recursionDesired : Bool) : Message :=
  { flags := { recursionDesired }, questions := [question] }

theorem query_callOn
    (transactionId : UInt16)
    (query : Message)
    (question : Question)
    (upstream : Net.Endpoint) :
    (Call.on transactionId query question upstream).query =
      { bareQuery question query.flags.recursionDesired with id := transactionId } :=
  rfl

/-- Verdicts that agree lead to decisions that tell the client the same. -/
theorem Verdict.Akin.told_decision
    {first second : Verdict}
    (akin : first.Akin second)
    {firstSetting secondSetting : Setting}
    (upstream_eq : firstSetting.upstream = secondSetting.upstream)
    (alike :
      AlikeExchanges firstSetting.chance.transactionId secondSetting.chance.transactionId
        firstSetting.exchange secondSetting.exchange) :
    told (first.decision firstSetting).result = told (second.decision secondSetting).result := by
  cases akin with
  | failed error => rfl
  | blocked akin answers => rfl
  | cleared akin question =>
      apply told_ofExchange
      rw [query_callOn, query_callOn, akin.recursionDesired_eq, Call.upstream_on,
        Call.upstream_on, upstream_eq]
      apply alike

/-- A query that goes upstream repeats the first question and whether recursion is desired, and
has an id of its own. -/
theorem query_of_call_resolve
    {σ : Type}
    {policy : Policy}
    {choose : Chooser σ}
    {exchange : Exchange}
    {chance : Chance}
    {state : σ}
    {request : Request}
    {call : Call}
    (called : (resolve policy choose exchange chance state request).1.call = some call) :
    ∃ query question, Asks request query question ∧
      call.query =
        { bareQuery question query.flags.recursionDesired with id := chance.transactionId } := by
  cases judged : (Judgement.ofRequest policy chance.requestId request).verdict with
  | failed error =>
      rw [resolve_of_failed judged] at called
      cases called
  | blocked reply =>
      rw [resolve_of_blocked judged] at called
      cases called
  | cleared query question =>
      rw [resolve_of_cleared judged] at called
      cases called
      obtain ⟨_, read, first, _⟩ := Judgement.exists_of_verdict_cleared judged
      exact ⟨query, question, ⟨read, first⟩, query_callOn ..⟩

/-! ## Two runs -/

section TwoRuns

variable
  {firstRequest secondRequest : Request}
  {firstQuery secondQuery : Message}
  {firstExchange secondExchange : Exchange}
  {firstChance secondChance : Chance}
  {firstId secondId : String}

/-- The results of two requests whose queries agree tell the clients the same. -/
theorem told_resolve_eq
    (firstRead : firstRequest.message = .ok firstQuery)
    (secondRead : secondRequest.message = .ok secondQuery)
    (akin : firstQuery.Akin secondQuery)
    (alike :
      AlikeExchanges firstChance.transactionId secondChance.transactionId firstExchange
        secondExchange)
    (firstIdentified : firstChance.requestId = .ok firstId)
    (secondIdentified : secondChance.requestId = .ok secondId)
    (policy : Policy)
    {σ : Type}
    (choose : Chooser σ)
    (state : σ) :
    told (resolve policy choose firstExchange firstChance state firstRequest).1.result =
      told (resolve policy choose secondExchange secondChance state secondRequest).1.result := by
  have verdicts := Verdict.Akin.ofRequest firstRead secondRead akin policy firstId secondId
  rw [← firstIdentified, ← secondIdentified] at verdicts
  have firstDecision := decision_resolve policy choose firstExchange firstChance state firstRequest
  have secondDecision :=
    decision_resolve policy choose secondExchange secondChance state secondRequest
  change told (Resolution.decision _).result = told (Resolution.decision _).result
  rw [firstDecision, secondDecision]
  apply verdicts.told_decision
  · rfl
  · exact alike

/-- Two requests whose queries agree get one and the same reply. -/
theorem exists_common_reply
    (firstRead : firstRequest.message = .ok firstQuery)
    (secondRead : secondRequest.message = .ok secondQuery)
    (akin : firstQuery.Akin secondQuery)
    (alike :
      AlikeExchanges firstChance.transactionId secondChance.transactionId firstExchange
        secondExchange)
    (firstIdentified : firstChance.requestId = .ok firstId)
    (secondIdentified : secondChance.requestId = .ok secondId)
    (policy : Policy)
    {σ : Type}
    (choose : Chooser σ)
    (state : σ) :
    ∃ reply,
      firstRequest.replyTo?
          (resolve policy choose firstExchange firstChance state firstRequest).1.result =
        some reply ∧
      secondRequest.replyTo?
          (resolve policy choose secondExchange secondChance state secondRequest).1.result =
        some reply := by
  have told_eq := told_resolve_eq firstRead secondRead akin alike firstIdentified
    secondIdentified policy choose state
  refine ⟨_, replyTo?_resolve firstRead .., ?_⟩
  rw [replyTo?_resolve secondRead, told_eq, akin.replyWith_eq]

/-- Two requests whose queries agree in what a reply keeps of them get the same reply, if the
same names are blocked, the upstreams are chosen alike and answer alike, and both get an
identifier. Nothing else that differs between the two is in the reply: the identifiers, the ids
of the calls, the clients, and all that the queries do not agree in. Of a query that goes
upstream all but the id is a function of the first question and of whether recursion is
desired. -/
theorem reply_independent
    (firstRead : firstRequest.message = .ok firstQuery)
    (secondRead : secondRequest.message = .ok secondQuery)
    (akin : firstQuery.Akin secondQuery)
    (alike :
      AlikeExchanges firstChance.transactionId secondChance.transactionId firstExchange
        secondExchange)
    (firstIdentified : firstChance.requestId = .ok firstId)
    (secondIdentified : secondChance.requestId = .ok secondId)
    (policy : Policy) :
    (∀ rotation : Rotation Net.Endpoint, ∃ reply,
      (handle policy firstExchange firstChance rotation firstRequest).reply = some reply ∧
      (handle policy secondExchange secondChance rotation secondRequest).reply = some reply) ∧
    (∀ (σ : Type) (choose : Chooser σ) (state : σ), ∃ reply,
      firstRequest.replyTo?
          (resolve policy choose firstExchange firstChance state firstRequest).1.result =
        some reply ∧
      secondRequest.replyTo?
          (resolve policy choose secondExchange secondChance state secondRequest).1.result =
        some reply) ∧
    ∀ (σ : Type) (choose : Chooser σ) (exchange : Exchange) (chance : Chance) (state : σ)
        (request : Request) (call : Call),
      (resolve policy choose exchange chance state request).1.call = some call →
        ∃ query question, Asks request query question ∧
          call.query =
            { bareQuery question query.flags.recursionDesired with
              id := chance.transactionId } := by
  have common {σ : Type} (choose : Chooser σ) (state : σ) :=
    exists_common_reply firstRead secondRead akin alike firstIdentified secondIdentified policy
      choose state
  refine ⟨?_, fun σ choose state => common choose state,
    fun _ _ _ _ _ _ _ => query_of_call_resolve⟩
  intro rotation
  rw [handle, handle, Dispatched.reply_handled, Dispatched.reply_handled]
  exact common Rotation.next rotation

end TwoRuns

/-- The query for a name of one letter with another question behind it, bits set that a reply
does not repeat, and a record of the kind that announces an extension. -/
def crowdedQuery : Message :=
  { letterQuery with
    flags := { recursionDesired := true, reserved := true, authenticated := true }
    questions := letterQuery.questions ++ [{ qname := .root, qtype := .mx, qclass := .internet }]
    additional := [⟨.root, .named .opt, .unknown 4096, 0, .raw [0, 10]⟩] }

/-- The octets of the crowded query. -/
def crowdedOctets : Array UInt8 :=
  #[0, 1, 1, 96, 0, 2, 0, 0, 0, 0, 0, 1, 1, 97, 0, 0, 1, 0, 1, 0, 0, 15, 0, 1, 0, 0, 41, 16, 0,
    0, 0, 0, 0, 0, 2, 0, 10]

theorem decode_crowdedOctets : Message.decode crowdedOctets = .ok crowdedQuery := by
  have wellFormed : crowdedQuery.WellFormed := ⟨by decide, by decide, by decide⟩
  exact Message.decode_encode wellFormed (Message.encode_eq_ok_iff.mpr ⟨by decide, by decide⟩)

/-- A datagram and a request over a stream from another client, with other ids: once while the
upstream answers each call under its id, and once while it answers both under an id of its own,
which is neither. -/
theorem reply_independent_crowded :
    let client : Net.Endpoint := { address := .ipv4 .unspecified, port := 5353 }
    let upstream : Net.Endpoint := { address := .ipv4 .unspecified, port := 53 }
    let answer : Record := ⟨.root, .a, .internet, 60, .ipv4 (.ofOctets 6 6 6 6)⟩
    let echoing : Exchange := fun query _ =>
      { result := .ok { id := query.id, answers := [answer] } }
    let stubborn : Exchange := fun _ _ => { result := .ok { id := 9, answers := [answer] } }
    let rotation : Rotation Net.Endpoint := { items := #[upstream], cursor := ⟨0, by decide⟩ }
    let plain : Request := ⟨.datagram, client, letterOctets⟩
    let crowded : Request := ⟨.stream, upstream, crowdedOctets⟩
    let handlePlain := fun exchange =>
      handle (fun _ => false) exchange ⟨.ok "0", 7, 1⟩ rotation plain
    let handleCrowded := fun exchange =>
      handle (fun _ => false) exchange ⟨.ok "1", 8, 20⟩ rotation crowded
    plain.message = .ok letterQuery ∧ crowded.message = .ok crowdedQuery ∧
      letterQuery.Akin crowdedQuery ∧
      (AlikeExchanges 7 8 echoing echoing ∧
        ∃ reply, (handlePlain echoing).reply = some reply ∧
          (handleCrowded echoing).reply = some reply) ∧
      AlikeExchanges 7 8 stubborn stubborn ∧
        ∃ reply, (handlePlain stubborn).reply = some reply ∧
          (handleCrowded stubborn).reply = some reply := by
  intro client upstream answer echoing stubborn rotation plain crowded handlePlain handleCrowded
  have plainRead : plain.message = .ok letterQuery := decode_letterOctets
  have crowdedRead : crowded.message = .ok crowdedQuery := decode_crowdedOctets
  have akin : letterQuery.Akin crowdedQuery := ⟨rfl, rfl, rfl, rfl, rfl⟩
  have echoAlike : AlikeExchanges 7 8 echoing echoing := by
    intro query upstream
    exact .responded { answers := [answer] } (iff_of_true rfl rfl)
  have stubbornAlike : AlikeExchanges 7 8 stubborn stubborn := by
    intro query upstream
    exact .responded { answers := [answer] } (iff_of_false (by decide) (by decide))
  refine ⟨plainRead, crowdedRead, akin, ⟨echoAlike, ?_⟩, stubbornAlike, ?_⟩
  · exact (reply_independent plainRead crowdedRead akin echoAlike rfl rfl (fun _ => false)).1 rotation
  · exact
      (reply_independent plainRead crowdedRead akin stubbornAlike rfl rfl (fun _ => false)).1
        rotation

end Sinkhole
