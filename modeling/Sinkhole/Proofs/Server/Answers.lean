import Sinkhole.Proofs.Blocklist.Membership
import Sinkhole.Proofs.Dns.Framing
import Sinkhole.Proofs.Dns.RoundTrip
import Sinkhole.Proofs.Resolver.Dispatch
import Sinkhole.Server.Datagram
import Sinkhole.Server.Stream

/-!
# Which requests are answered

Every request that is as long as a header has a reply, but the reply is written in full
before it is looked at whether it is to be truncated. So the client gets an answer exactly
when the whole reply, without compression, is not longer than a message can be. Only
answers that are passed on can be too long: a response may be short because its names
are compressed, or because it leaves out the question.
-/

namespace Sinkhole

open Dns

/-! ## How long a reply is -/

theorem Dns.Question.length_wire_le (question : Question) : question.wire.length ≤ 259 := by
  have bound := question.qname.wireLength_le
  rw [length_wire]
  simp only [maxNameLength] at bound
  omega

/-- A message with at most one question has few octets besides those of its records. -/
theorem Dns.Message.length_wire_le
    {message : Message}
    (single : message.questions.length ≤ 1) :
    message.wire.length ≤ 271 + (message.records.flatMap Record.wire).length := by
  have questions_le : (message.questions.flatMap Question.wire).length ≤ 259 := by
    match questions : message.questions with
    | [] => simp
    | [question] => simpa using question.length_wire_le
    | first :: second :: rest => simp [questions] at single
  rw [length_wire, headerLength]
  omega

/-- A reply to one question fits into every datagram without its records. -/
theorem Dns.Message.length_wire_truncated_le
    {message : Message}
    (single : message.questions.length ≤ 1) :
    message.truncated.wire.length ≤ maxDatagramLength := by
  have bound := @length_wire_le message.truncated single
  have noRecords : message.truncated.records = [] := rfl
  rw [noRecords, List.flatMap_nil, List.length_nil] at bound
  simp only [maxDatagramLength]
  omega

/-- A reply passes on the answers of a response to the query of a request. -/
def Relays (request : Request) (exchange : Exchange) (reply : Message) : Prop :=
  ∃ (query response : Message) (call : Call), request.message = .ok query ∧
    (exchange call.query call.upstream).result = .ok response ∧
    reply = answerReply query response.answers

theorem length_wire_blockedData_le
    {qtype : RecordType}
    {rdata : RData}
    (data : blockedData? qtype = some rdata) :
    rdata.wire.length ≤ 16 := by
  unfold blockedData? at data
  split at data
  · cases data
    decide
  · split at data
    · cases data
      decide
    · cases data

namespace RepliesTo

variable {request : Request} {exchange : Exchange} {reply : Message}

theorem length_questions_le (replies : RepliesTo request exchange reply) :
    reply.questions.length ≤ 1 := by
  cases replies with
  | failed read error => exact List.length_take_le 1 _
  | unread made => simp [(sections_of_headerReply made).1]
  | blocked read first data => exact List.length_take_le 1 _
  | relayed read exchanged => exact List.length_take_le 1 _

/-- Only answers that are passed on can be too long. -/
theorem short_or_relays (replies : RepliesTo request exchange reply) :
    reply.wire.length ≤ maxMessageLength ∨ Relays request exchange reply := by
  have bound := Message.length_wire_le replies.length_questions_le
  cases replies with
  | @failed query read error =>
      have noRecords : (errorReply query error).records = [] := rfl
      rw [noRecords, List.flatMap_nil, List.length_nil] at bound
      simp only [maxMessageLength]
      omega
  | unread made =>
      rw [(sections_of_headerReply made).2, List.flatMap_nil, List.length_nil] at bound
      simp only [maxMessageLength]
      omega
  | @blocked query question rdata read first data =>
      have oneRecord : (answerReply query [blockedAnswer question rdata]).records =
          [blockedAnswer question rdata] := rfl
      have name_le := question.qname.wireLength_le
      have data_le := length_wire_blockedData_le data
      rw [oneRecord, List.flatMap_singleton, Record.length_wire] at bound
      simp only [maxMessageLength, maxNameLength, blockedAnswer] at *
      omega
  | relayed read exchanged => exact Or.inr ⟨_, _, _, read, exchanged, rfl⟩

end RepliesTo

namespace Server

/-! ## Datagrams -/

theorem maxDatagramLength_le : maxDatagramLength ≤ maxMessageLength := by
  decide

/-- A reply goes out as it is if it fits into a datagram, truncated if it does not, and
not at all if it is too long for a message: it is encoded before its size is looked at. -/
theorem sent_sendDatagram
    {handled : Handled}
    {reply : Message}
    (replied : handled.reply = some reply)
    (single : reply.questions.length ≤ 1)
    (client : Net.Endpoint) :
    (sendDatagram client handled).sent =
      if reply.wire.length ≤ maxDatagramLength then some reply.wire.toArray
      else if reply.wire.length ≤ maxMessageLength then some reply.truncated.wire.toArray
      else none := by
  have truncated := Message.encode_of_short
    ((Message.length_wire_truncated_le single).trans maxDatagramLength_le)
  by_cases short : reply.wire.length ≤ maxMessageLength
  · rw [sendDatagram, replied]
    simp only [datagramReply, Message.encode_of_short short, List.size_toArray, truncated]
    by_cases fits : reply.wire.length ≤ maxDatagramLength
    · simp [fits]
    · simp [fits, short]
  · obtain ⟨error, failed⟩ := Message.encode_of_long (Nat.not_le.mp short)
    have large : ¬reply.wire.length ≤ maxDatagramLength :=
      fun fits => short (fits.trans maxDatagramLength_le)
    rw [sendDatagram, replied]
    simp only [datagramReply, failed, short, large, if_false]

/-- A reply goes out in some form exactly when all of it could be encoded. -/
theorem isSome_sent_iff
    {handled : Handled}
    {reply : Message}
    (replied : handled.reply = some reply)
    (single : reply.questions.length ≤ 1)
    (client : Net.Endpoint) :
    (sendDatagram client handled).sent.isSome = true ↔
      reply.wire.length ≤ maxMessageLength := by
  rw [sent_sendDatagram replied single client]
  by_cases fits : reply.wire.length ≤ maxDatagramLength
  · simp [fits, fits.trans maxDatagramLength_le]
  · by_cases short : reply.wire.length ≤ maxMessageLength <;> simp [fits, short]

/-! ## Streams -/

/-- A reply that can be encoded has a frame around its octets. -/
theorem replyFrame_of_short
    {reply : Message}
    (short : reply.wire.length ≤ maxMessageLength) :
    replyFrame reply = .ok (wordOctets (UInt16.ofNat reply.wire.length) ++ reply.wire) := by
  simp [replyFrame, Message.encode_of_short short, Frame.around?_of_short short]

theorem replyFrame_of_long
    {reply : Message}
    (long : maxMessageLength < reply.wire.length) :
    ∃ error, replyFrame reply = .error error := by
  obtain ⟨error, failed⟩ := Message.encode_of_long long
  exact ⟨error, by simp [replyFrame, failed]⟩

section Stream

variable {σ : Type} {answer : σ → Request → Answered σ} {client : Net.Endpoint}
  {ending : StreamEnding} {state : σ} {stream body rest : List UInt8} {reply : Message}

/-- A request whose reply can be encoded is answered with one frame, and the next request
is taken. -/
theorem written_serveStream_of_short
    (whole : Frame.cut stream = .whole body rest)
    (replied : (answer state ⟨.stream, client, body.toArray⟩).reply = some reply)
    (short : reply.wire.length ≤ maxMessageLength) :
    (serveStream answer client ending state stream).written =
      wordOctets (UInt16.ofNat reply.wire.length) ++ reply.wire ++
        (serveStream answer client ending
          (answer state ⟨.stream, client, body.toArray⟩).state rest).written := by
  rw [serveStream]
  split
  · next none => simp [none] at whole
  · next none => simp [none] at whole
  · next other left cut =>
      rw [cut] at whole
      cases whole
      simp [replied, replyFrame_of_short short]

/-- A reply that is too long ends its connection, and nothing is written for it. -/
theorem written_serveStream_of_long
    (whole : Frame.cut stream = .whole body rest)
    (replied : (answer state ⟨.stream, client, body.toArray⟩).reply = some reply)
    (long : maxMessageLength < reply.wire.length) :
    (serveStream answer client ending state stream).written = [] := by
  obtain ⟨error, failed⟩ := replyFrame_of_long long
  rw [serveStream]
  split
  · next none => simp [none] at whole
  · next none => simp [none] at whole
  · next other left cut =>
      rw [cut] at whole
      cases whole
      simp [replied, failed]

end Stream

/-! ## Answered requests -/

/-- What happens around one request: what chance provides for it, and what asking an
upstream comes to. -/
structure Circumstance where
  chance : Chance
  exchange : Exchange

/-- Where a server stands between two requests: whose turn it is among the upstreams, and
how many requests it has handled. -/
structure Standing where
  rotation : Rotation Net.Endpoint
  handled : Nat := 0

/-- Answer requests one after the other by handling them. -/
def answering
    (policy : Policy)
    (circumstances : Nat → Circumstance)
    (standing : Standing)
    (request : Request) :
    Answered Standing :=
  let circumstance := circumstances standing.handled
  let handled :=
    handle policy circumstance.exchange circumstance.chance standing.rotation request
  { reply := handled.reply
    events := handled.events
    state := { rotation := handled.rotation, handled := standing.handled + 1 } }

/-- Every request that is as long as a header has a reply. A datagram goes back, or a
frame is written and the connection goes on, exactly when the whole reply is not too long
for a message; otherwise the client gets nothing, and a connection ends. Only replies that
pass on the answers of an upstream can be too long. -/
theorem answered_iff_encodable
    (policy : Policy)
    (circumstances : Nat → Circumstance)
    (standing : Standing)
    (client : Net.Endpoint) :
    (∀ datagram : Array UInt8, headerLength ≤ datagram.size →
      let request := datagramRequest client datagram
      let circumstance := circumstances standing.handled
      let handled :=
        handle policy circumstance.exchange circumstance.chance standing.rotation request
      ∃ reply, handled.reply = some reply ∧
        ((sendDatagram client handled).sent.isSome = true ↔
          reply.wire.length ≤ maxMessageLength) ∧
        (maxMessageLength < reply.wire.length → Relays request circumstance.exchange reply)) ∧
    ∀ (body frame rest : List UInt8) (ending : StreamEnding),
      headerLength ≤ body.length → Frame.around? body = some frame →
      let request : Request := ⟨.stream, client, body.toArray⟩
      let answered := answering policy circumstances standing request
      let serve := serveStream (answering policy circumstances) client ending
      ∃ reply, answered.reply = some reply ∧
        (reply.wire.length ≤ maxMessageLength →
          ∃ written, Frame.around? reply.wire = some written ∧
            (serve standing (frame ++ rest)).written =
              written ++ (serve answered.state rest).written) ∧
        (maxMessageLength < reply.wire.length →
          (serve standing (frame ++ rest)).written = [] ∧
            Relays request (circumstances standing.handled).exchange reply) := by
  constructor
  · intro datagram long request circumstance handled
    have requestLong : headerLength ≤ request.octets.size := by
      simp only [request, datagramRequest, headerLength, maxRequest, Array.size_extract] at long ⊢
      omega
    obtain ⟨reply, replied, replies⟩ :=
      exists_reply policy circumstance.exchange circumstance.chance standing.rotation requestLong
    refine ⟨reply, replied, isSome_sent_iff replied replies.length_questions_le client, ?_⟩
    intro overlong
    exact replies.short_or_relays.resolve_left (Nat.not_le.mpr overlong)
  · intro body frame rest ending long framed request answered serve
    have requestLong : headerLength ≤ request.octets.size := by simpa [request] using long
    obtain ⟨reply, replied, replies⟩ :=
      exists_reply policy (circumstances standing.handled).exchange
        (circumstances standing.handled).chance standing.rotation requestLong
    have whole := Frame.cut_append framed rest
    refine ⟨reply, replied, ?_, ?_⟩
    · intro short
      exact ⟨_, Frame.around?_of_short short, written_serveStream_of_short whole replied short⟩
    · intro overlong
      exact ⟨written_serveStream_of_long whole replied overlong,
        replies.short_or_relays.resolve_left (Nat.not_le.mpr overlong)⟩

/-- A client, and the only upstream. -/
def someEndpoint : Net.Endpoint :=
  { address := .ipv4 .unspecified, port := 53 }

/-- A server at its start, with one upstream. -/
def someStanding : Standing :=
  { rotation := { items := #[someEndpoint], cursor := ⟨0, by decide⟩ } }

/-- An upstream that cannot be asked. -/
def failing (failure : Failure) : Circumstance :=
  { chance := { requestId := .ok "0", transactionId := 0, elapsedMillis := 0 }
    exchange := fun _ _ => { result := .error failure } }

/-- A header of zeros is answered, whatever the failure of the upstream. -/
theorem answered_iff_encodable_header :
    let policy : Policy := fun _ => false
    let circumstance := failing { cause := "down" }
    let zeros := Array.replicate 12 (0 : UInt8)
    let handled := handle policy circumstance.exchange circumstance.chance someStanding.rotation
      (datagramRequest someEndpoint zeros)
    (sendDatagram someEndpoint handled).sent.isSome = true := by
  intro policy circumstance zeros handled
  obtain ⟨reply, _, sent_iff, only⟩ :=
    (answered_iff_encodable policy (fun _ => circumstance) someStanding someEndpoint).1 zeros
      (by decide)
  refine sent_iff.mpr (Nat.not_lt.mp fun overlong => ?_)
  obtain ⟨_, _, _, _, exchanged, _⟩ := only overlong
  cases exchanged

/-! ## A reply that is dropped -/

/-- A record of text whose data all but fills a message. -/
def longRecord : Record :=
  { name := .root
    rtype := .txt
    rclass := .internet
    ttl := 0
    rdata := .raw (List.replicate 65512 0) }

/-- A response with a long answer. It leaves out the question. -/
def longResponse : Message :=
  { flags := { response := true }, answers := [longRecord] }

/-- An upstream whose answer is long. -/
def verbose : Circumstance :=
  { chance := { requestId := .ok "0", transactionId := 0, elapsedMillis := 0 }
    exchange := fun _ _ => { result := .ok longResponse } }

/-- A query for the address of the root name. -/
def rootQuery : Message :=
  { flags := { recursionDesired := true }, questions := [⟨.root, .a, .internet⟩] }

/-- A record of text with the given number of octets. -/
def textRecord (size : Nat) : Record :=
  { name := .root
    rtype := .txt
    rclass := .internet
    ttl := 0
    rdata := .raw (List.replicate size 0) }

/-- A response with a record of text. It leaves out the question. -/
def textResponse (size : Nat) : Message :=
  { flags := { response := true }, answers := [textRecord size] }

section Text

variable (size : Nat)

theorem length_wire_textRecord : (textRecord size).wire.length = 11 + size := by
  have data_eq : (textRecord size).rdata.wire.length = size := List.length_replicate
  rw [Record.length_wire, data_eq]
  rfl

theorem length_wire_textResponse : (textResponse size).wire.length = 12 + (11 + size) := by
  have records_eq : (textResponse size).records = [textRecord size] := rfl
  rw [Message.length_wire, records_eq, List.flatMap_singleton, length_wire_textRecord]
  rfl

theorem length_wire_textReply :
    (answerReply rootQuery (textResponse size).answers).wire.length = 17 + (11 + size) := by
  have records_eq :
      (answerReply rootQuery (textResponse size).answers).records = [textRecord size] := rfl
  rw [Message.length_wire, records_eq, List.flatMap_singleton, length_wire_textRecord]
  rfl

theorem wellFormed_textResponse : (textResponse size).WellFormed := by
  have rcode_lt : (0 : UInt8) < 16 := by decide
  refine ⟨rcode_lt, List.forall_mem_nil _, fun record member => ?_⟩
  obtain rfl := List.mem_singleton.mp member
  exact ⟨Coded.proper_named _, Coded.proper_named _, rfl⟩

/-- The response is read from its encoding. -/
theorem decode_textResponse (short : (textResponse size).wire.length ≤ maxMessageLength) :
    Message.decode (textResponse size).wire.toArray = .ok (textResponse size) :=
  Message.decode_encode (wellFormed_textResponse size) (Message.encode_of_short short)

end Text

theorem length_wire_longResponse : longResponse.wire.length = maxMessageLength :=
  length_wire_textResponse 65512

theorem length_wire_longReply :
    (answerReply rootQuery longResponse.answers).wire.length = 65540 :=
  length_wire_textReply 65512

/-- What is read from a request that is the encoding of the query for the root name. -/
theorem decode_rootQuery : Message.decode rootQuery.wire.toArray = .ok rootQuery := by
  have wellFormed : rootQuery.WellFormed := ⟨by decide, by decide, by decide⟩
  exact Message.decode_encode wellFormed (Message.encode_of_short (by decide))

/-- An upstream that gives the same response to every query. -/
def answeredBy (response : Message) : Circumstance :=
  { chance := { requestId := .ok "0", transactionId := 0, elapsedMillis := 0 }
    exchange := fun _ _ => { result := .ok response } }

/-- The query for the root name gets the answers of the response that comes back. -/
theorem reply_handle_answeredBy
    {request : Request}
    {response : Message}
    (read : request.message = .ok rootQuery)
    (sameId : response.id = 0)
    (answered : response.answers ≠ []) :
    (handle ({} : Blocklist).policy (answeredBy response).exchange (answeredBy response).chance
        someStanding.rotation request).reply =
      some (answerReply rootQuery response.answers) := by
  have unblocked (name : String) : ({} : Blocklist).policy name = false := by
    rw [Bool.eq_false_iff]
    intro contained
    have matched := (Blocklist.contains_ofTexts_iff [] name).mp contained
    simp at matched
  exact reply_handle_of_relay rfl read rfl rfl rfl (unblocked _) rfl sameId answered

theorem reply_handle_longResponse
    {request : Request}
    (read : request.message = .ok rootQuery) :
    (handle ({} : Blocklist).policy verbose.exchange verbose.chance someStanding.rotation
        request).reply =
      some (answerReply rootQuery longResponse.answers) :=
  reply_handle_answeredBy read rfl (by simp [longResponse])

/-- An upstream answers with a message that can be decoded from as many octets as there
can be, and the client gets nothing, although the reply could have been truncated. On a
stream the request behind it is not answered either. -/
theorem long_reply_dropped :
    let policy := ({} : Blocklist).policy
    let octets := rootQuery.wire.toArray
    let frame := wordOctets 17 ++ rootQuery.wire
    longResponse.wire.length = maxMessageLength ∧
      Message.decode longResponse.wire.toArray = .ok longResponse ∧
      headerLength ≤ octets.size ∧
      (sendDatagram someEndpoint
        (handle policy verbose.exchange verbose.chance someStanding.rotation
          (datagramRequest someEndpoint octets))).sent = none ∧
      Frame.around? rootQuery.wire = some frame ∧
      (serveStream (answering policy fun _ => verbose) someEndpoint .closed someStanding
        (frame ++ frame)).written = [] := by
  intro policy octets frame
  have long : maxMessageLength < (answerReply rootQuery longResponse.answers).wire.length := by
    rw [length_wire_longReply]
    decide
  have framed : Frame.around? rootQuery.wire = some frame := by decide
  refine ⟨length_wire_longResponse, ?_, by decide, ?_, framed, ?_⟩
  · exact decode_textResponse 65512 (Nat.le_of_eq length_wire_longResponse)
  · have whole : (datagramRequest someEndpoint octets).octets = octets := by decide
    have read : (datagramRequest someEndpoint octets).message = .ok rootQuery := by
      rw [Request.message, whole]
      exact decode_rootQuery
    have replied := reply_handle_longResponse read
    rw [sent_sendDatagram replied (by decide) someEndpoint, length_wire_longReply]
    rfl
  · have read : (⟨.stream, someEndpoint, rootQuery.wire.toArray⟩ : Request).message =
        .ok rootQuery := decode_rootQuery
    exact written_serveStream_of_long (Frame.cut_append framed frame)
      (reply_handle_longResponse read) long

end Server
end Sinkhole
