import Sinkhole.Proofs.Dns.Header
import Sinkhole.Proofs.Resolver.Decision

/-!
# What a reply keeps of its request

A reply is made from the query, if the request can be read, and otherwise from the header
alone. Either way its id, and whether recursion is desired, are those in the first octets
of the request, its flags say that it is a response and nothing more than that, and it has
at most one question. Only what succeeded has answers.
-/

namespace Sinkhole

open Dns

/-- A reply mirrors a request that has come to the given result. -/
structure Mirrors
    (request : Request)
    (result : Except ResolveError Message)
    (reply : Message) : Prop where
  id_eq : ∃ high low, request.octets[0]? = some high ∧ request.octets[1]? = some low ∧
    reply.id.toNat = high.toNat * 256 + low.toNat
  response : reply.flags.response = true
  recursionAvailable : reply.flags.recursionAvailable = true
  authoritative : reply.flags.authoritative = false
  truncated : reply.flags.truncated = false
  reserved : reply.flags.reserved = false
  authenticated : reply.flags.authenticated = false
  recursionDesired_eq : ∃ third, request.octets[2]? = some third ∧
    reply.flags.recursionDesired = third.toNat.testBit 0
  checkingDisabled_eq : reply.flags.checkingDisabled =
    match request.message with
    | .ok query => query.flags.checkingDisabled
    | .error _ => false
  questions_eq : reply.questions =
    match request.message with
    | .ok query => query.questions.take 1
    | .error _ => []
  authority_eq : reply.authority = []
  additional_eq : reply.additional = []
  answers_eq : ∀ error, result = .error error → reply.answers = []
  rcode_eq : reply.flags.rcode =
    match result with
    | .ok _ => ResponseCode.noError.code
    | .error error => error.responseCode.code

/-- Whether recursion is desired is the lowest bit of the third octet. -/
theorem Dns.exists_peekRecursionDesired_eq
    {octets : Array UInt8}
    (long : headerLength ≤ octets.size) :
    ∃ third, octets[2]? = some third ∧
      peekRecursionDesired octets = third.toNat.testBit 0 := by
  simp only [headerLength] at long
  have third : octets[2]? = some octets[2] := Array.getElem?_eq_getElem (by omega)
  refine ⟨octets[2], third, ?_⟩
  rw [peekRecursionDesired, third, Option.any_some, Nat.testBit_zero]
  rfl

/-- A reply that is made from a query mirrors the request that holds the query. -/
theorem mirrors_replyWith
    {request : Request}
    {query : Message}
    (read : request.message = .ok query)
    {result : Except ResolveError Message}
    {responseCode : ResponseCode}
    {answers : List Record}
    (reported :
      responseCode =
        match result with
        | .ok _ => .noError
        | .error error => error.responseCode)
    (unanswered : ∀ error, result = .error error → answers = []) :
    Mirrors request result (query.replyWith responseCode answers) := by
  have header := hasHeader_of_decode read
  obtain ⟨high, low, first, second, id_eq⟩ := header.id_eq
  obtain ⟨third, thirdOctet, bit⟩ := exists_peekRecursionDesired_eq header.long
  exact {
    id_eq := ⟨high, low, first, second, by rw [← toNat_word, ← id_eq]; rfl⟩
    response := rfl
    recursionAvailable := rfl
    authoritative := rfl
    truncated := rfl
    reserved := rfl
    authenticated := rfl
    recursionDesired_eq := ⟨third, thirdOctet, header.recursionDesired_eq.trans bit⟩
    checkingDisabled_eq := by rw [read]; rfl
    questions_eq := by rw [read]; rfl
    authority_eq := rfl
    additional_eq := rfl
    answers_eq := unanswered
    rcode_eq := by
      subst reported
      cases result <;> rfl }

/-- A reply that is made from a header mirrors the request that cannot be read. -/
theorem mirrors_of_headerReply
    {request : Request}
    {readError : ReadError}
    (unread : request.message = .error readError)
    {error : ResolveError}
    {reply : Message}
    (long : headerLength ≤ request.octets.size)
    (made : headerReply? request.octets error = some reply) :
    Mirrors request (.error error) reply := by
  obtain ⟨third, thirdOctet, bit⟩ := exists_peekRecursionDesired_eq long
  simp only [headerLength] at long
  rw [headerReply?_of_long long] at made
  cases made
  have first : request.octets[0]? = some request.octets[0] :=
    Array.getElem?_eq_getElem (by omega)
  have second : request.octets[1]? = some request.octets[1] :=
    Array.getElem?_eq_getElem (by omega)
  exact {
    id_eq := ⟨_, _, first, second, toNat_word _ _⟩
    response := rfl
    recursionAvailable := rfl
    authoritative := rfl
    truncated := rfl
    reserved := rfl
    authenticated := rfl
    recursionDesired_eq := ⟨third, thirdOctet, bit⟩
    checkingDisabled_eq := by rw [unread]; rfl
    questions_eq := by rw [unread]
    authority_eq := rfl
    additional_eq := rfl
    answers_eq := fun _ _ => rfl
    rcode_eq := rfl }

/-- A request has no reply exactly when it is shorter than a header. Otherwise its reply
mirrors it, whatever became of the query. -/
theorem reply_mirrors_request
    (policy : Policy)
    (exchange : Exchange)
    (chance : Chance)
    (rotation : Rotation Net.Endpoint)
    (request : Request) :
    let result := (dispatch policy exchange chance rotation request).result
    match (handle policy exchange chance rotation request).reply with
    | none => request.octets.size < headerLength
    | some reply => headerLength ≤ request.octets.size ∧ Mirrors request result reply := by
  intro result
  rw [handle, Dispatched.reply_handled]
  change match request.replyTo? result with
    | none => request.octets.size < headerLength
    | some reply => headerLength ≤ request.octets.size ∧ Mirrors request result reply
  cases came : result with
  | ok reply =>
      have succeeded :
          (resolve policy Rotation.next exchange chance rotation request).1.result = .ok reply :=
        came
      obtain ⟨query, read, replied⟩ := exists_of_result_resolve succeeded
      refine ⟨(hasHeader_of_decode read).long, ?_⟩
      rcases replied with ⟨question, _, rfl⟩ | ⟨response, _, _, _, _, _, rfl⟩
      · exact mirrors_replyWith read rfl (by simp)
      · exact mirrors_replyWith read rfl (by simp)
  | error error =>
      rw [Request.replyTo?, Request.errorReply?]
      cases read : request.message with
      | ok query =>
          refine ⟨(hasHeader_of_decode read).long, ?_⟩
          rw [errorReply_eq]
          exact mirrors_replyWith read rfl fun _ _ => rfl
      | error readError =>
          by_cases long : headerLength ≤ request.octets.size
          · have made := headerReply?_of_long long error
            dsimp only
            rw [made]
            exact ⟨long, mirrors_of_headerReply read long made⟩
          · have short := Nat.not_le.mp long
            dsimp only
            rw [headerReply?_of_short short]
            exact short

end Sinkhole
