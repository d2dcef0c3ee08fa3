import Sinkhole.Proofs.Dns.Header
import Sinkhole.Proofs.Server.Answers
import Sinkhole.Upstream.Exchange

/-!
# Requests and replies on one stream

A stream carries a frame for each request, and what is written back has a frame for each
reply, in the order of the requests. A request that cannot be read is answered like any
other, and one that is shorter than a header is passed over, so neither moves the frames
behind it. Whoever asks over such a stream puts out one frame around the query and takes the
body of the first frame that comes back.
-/

namespace Sinkhole

open Dns

/-! ## Which requests have replies -/

/-- What is replied to is as long as a header. -/
theorem RepliesTo.long
    {request : Request}
    {exchange : Exchange}
    {reply : Message}
    (replies : RepliesTo request exchange reply) :
    headerLength ≤ request.octets.size := by
  cases replies with
  | failed read error => exact (hasHeader_of_decode read).long
  | unread made => exact (exists_of_headerReply made).1
  | blocked read first data => exact (hasHeader_of_decode read).long
  | relayed read exchanged => exact (hasHeader_of_decode read).long

/-- The requests with a reply are those that are as long as a header. -/
theorem isSome_reply_handle_iff
    (policy : Policy)
    (exchange : Exchange)
    (chance : Chance)
    (rotation : Rotation Net.Endpoint)
    (request : Request) :
    (handle policy exchange chance rotation request).reply.isSome = true ↔
      headerLength ≤ request.octets.size := by
  constructor
  · intro answered
    obtain ⟨reply, replied⟩ := Option.isSome_iff_exists.mp answered
    exact (repliesTo_of_reply_handle replied).long
  · intro long
    obtain ⟨reply, replied, _⟩ := exists_reply policy exchange chance rotation long
    rw [replied, Option.isSome_some]

namespace Server

/-! ## Conversations -/

section Stream

variable {σ : Type} {answer : σ → Request → Answered σ} {client : Net.Endpoint}
  {ending : StreamEnding} {state : σ} {stream body rest tail : List UInt8}
  {bodies : List (List UInt8)}

/-- The bodies of the requests on a stream, each with the reply to it if there is one. Each
request is answered in the state that those before it leave behind. -/
def conversation (answer : σ → Request → Answered σ) (client : Net.Endpoint) :
    σ → List (List UInt8) → List (List UInt8 × Option Message)
  | _, [] => []
  | state, body :: rest =>
      let answered := answer state ⟨.stream, client, body.toArray⟩
      (body, answered.reply) :: conversation answer client answered.state rest

/-- The replies that there are in a conversation. -/
def replies (exchanges : List (List UInt8 × Option Message)) : List Message :=
  exchanges.filterMap Prod.snd

theorem map_fst_conversation (bodies : List (List UInt8)) (state : σ) :
    (conversation answer client state bodies).map Prod.fst = bodies := by
  induction bodies generalizing state with
  | nil => rfl
  | cons body rest hypothesis => rw [conversation, List.map_cons, hypothesis]

/-- What is replied in a conversation was answered in some state. -/
theorem exists_state_of_mem_conversation
    {exchange : List UInt8 × Option Message}
    (member : exchange ∈ conversation answer client state bodies) :
    ∃ state, exchange.2 = (answer state ⟨.stream, client, exchange.1.toArray⟩).reply := by
  induction bodies generalizing state with
  | nil => cases member
  | cons body rest hypothesis =>
      rcases List.mem_cons.mp member with rfl | later
      · exact ⟨state, rfl⟩
      · exact hypothesis later

/-- A request without a reply is passed over. -/
theorem written_serveStream_of_none
    (whole : Frame.cut stream = .whole body rest)
    (unanswered : (answer state ⟨.stream, client, body.toArray⟩).reply = none) :
    (serveStream answer client ending state stream).written =
      (serveStream answer client ending
        (answer state ⟨.stream, client, body.toArray⟩).state rest).written := by
  rw [serveStream]
  split
  · next none => simp [none] at whole
  · next none => simp [none] at whole
  · next other left cut =>
      rw [cut] at whole
      cases whole
      dsimp only
      rw [unanswered]
      rfl

/-- Nothing is written for the front of a frame. -/
theorem written_serveStream_of_incomplete (incomplete : Frame.Incomplete tail) :
    (serveStream answer client ending state tail).written = [] := by
  rw [serveStream]
  split
  · rfl
  · rfl
  · next body rest whole =>
      exact absurd whole (Frame.cut_ne_whole_of_incomplete incomplete body rest)

/-- Requests in frames are answered in frames. -/
theorem written_serveStream_joined
    (short : ∀ body ∈ bodies, body.length ≤ maxMessageLength)
    (incomplete : Frame.Incomplete tail)
    (encodable : ∀ reply ∈ replies (conversation answer client state bodies),
      reply.wire.length ≤ maxMessageLength) :
    (serveStream answer client ending state (Frame.joined bodies ++ tail)).written =
      Frame.joined ((replies (conversation answer client state bodies)).map Message.wire) := by
  induction bodies generalizing state with
  | nil => exact written_serveStream_of_incomplete incomplete
  | cons body rest hypothesis =>
      rw [List.forall_mem_cons] at short
      have whole := Frame.cut_joined_cons short.1 rest tail
      -- The state is handed on in either case, but only a reply has to be encodable.
      cases replied : (answer state ⟨.stream, client, body.toArray⟩).reply with
      | none =>
          have replies_eq : replies (conversation answer client state (body :: rest)) =
              replies (conversation answer client
                (answer state ⟨.stream, client, body.toArray⟩).state rest) := by
            simp [replies, conversation, replied]
          rw [replies_eq] at encodable ⊢
          rw [written_serveStream_of_none whole replied]
          exact hypothesis short.2 encodable
      | some reply =>
          have replies_eq : replies (conversation answer client state (body :: rest)) =
              reply :: replies (conversation answer client
                (answer state ⟨.stream, client, body.toArray⟩).state rest) := by
            simp [replies, conversation, replied]
          rw [replies_eq, List.forall_mem_cons] at encodable
          rw [replies_eq, written_serveStream_of_short whole replied encodable.1,
            hypothesis short.2 encodable.2]
          rfl

end Stream

/-- Messages that can all be encoded one by one are encoded together. -/
theorem mapM_encode_of_short
    {messages : List Message}
    (short : ∀ message ∈ messages, message.wire.length ≤ maxMessageLength) :
    messages.mapM Message.encode = .ok (messages.map fun message => message.wire.toArray) := by
  induction messages with
  | nil => rfl
  | cons message rest hypothesis =>
      rw [List.forall_mem_cons] at short
      rw [List.mapM_cons, Message.encode_of_short short.1, hypothesis short.2]
      rfl

/-- Frames around requests, with the front of another behind them, are answered with frames
around the replies to the requests that are as long as a header, in order, and with nothing
else. All lengths fit in front of their bodies. A client that asks over the same stream puts
out one frame around its query, which is cut off as the query, and takes the body of the
first frame that was written. -/
theorem framed_requests_framed_replies
    (policy : Policy)
    (circumstances : Nat → Circumstance)
    (standing : Standing)
    (client : Net.Endpoint)
    (ending : StreamEnding)
    {bodies : List (List UInt8)}
    {tail : List UInt8}
    (short : ∀ body ∈ bodies, body.length ≤ maxMessageLength)
    (incomplete : Frame.Incomplete tail)
    (encodable :
      ∀ reply ∈ replies (conversation (answering policy circumstances) client standing bodies),
        ∃ octets, reply.encode = .ok octets) :
    let answer := answering policy circumstances
    let exchanges := conversation answer client standing bodies
    let served := serveStream answer client ending standing (Frame.joined bodies ++ tail)
    exchanges.map Prod.fst = bodies ∧
      (∀ exchange ∈ exchanges,
        exchange.2.isSome = true ↔ headerLength ≤ exchange.1.length) ∧
      ∃ encodings : List (Array UInt8),
        (replies exchanges).mapM Message.encode = .ok encodings ∧
        served.written = Frame.joined (encodings.map Array.toList) ∧
        Frame.cutAll served.written = (encodings.map Array.toList, []) ∧
        (∀ octets ∈ encodings, (UInt16.ofNat octets.size).toNat = octets.size) ∧
        ∀ (query : List UInt8) (link : Upstream.StreamLink),
          query.length ≤ maxMessageLength → link.sending = none →
          link.arriving = served.written →
          let trip := Upstream.Stream.roundTrip link query
          (UInt16.ofNat query.length).toNat = query.length ∧
            ∃ frame, trip.sent = some frame ∧
              (∀ rest, Frame.cut (frame ++ rest) = .whole query rest) ∧
              ∀ first others, encodings = first :: others → trip.result = .ok first := by
  intro answer exchanges served
  have encodableShort (reply : Message) (member : reply ∈ replies exchanges) :
      reply.wire.length ≤ maxMessageLength := by
    obtain ⟨octets, encoded⟩ := encodable reply member
    exact (Message.encode_eq_ok_iff.mp encoded).1
  have written_eq : served.written = Frame.joined ((replies exchanges).map Message.wire) :=
    written_serveStream_joined short incomplete encodableShort
  refine ⟨map_fst_conversation bodies standing, fun exchange member => ?_,
    (replies exchanges).map fun reply => reply.wire.toArray,
    mapM_encode_of_short encodableShort, ?_⟩
  · obtain ⟨state, reply_eq⟩ := exists_state_of_mem_conversation member
    rw [reply_eq]
    exact isSome_reply_handle_iff _ _ _ _ _
  have bodies_eq : ((replies exchanges).map fun reply => reply.wire.toArray).map Array.toList =
      (replies exchanges).map Message.wire := by
    rw [List.map_map]
    rfl
  have writtenShort : ∀ body ∈ (replies exchanges).map Message.wire,
      body.length ≤ maxMessageLength :=
    List.forall_mem_map.mpr encodableShort
  rw [bodies_eq]
  refine ⟨written_eq, ?_, ?_, ?_⟩
  · rw [written_eq, ← List.append_nil (Frame.joined _)]
    exact Frame.cutAll_joined writtenShort Frame.incomplete_nil
  · exact List.forall_mem_map.mpr fun reply member => toNat_ofNat_of_le (encodableShort reply member)
  · intro query link queryShort sending arriving trip
    have framed := Frame.around?_of_short queryShort
    refine ⟨toNat_ofNat_of_le queryShort, _, ?_, Frame.cut_append framed, ?_⟩
    · simp only [trip, Upstream.Stream.roundTrip, framed, sending]
    · intro first others encodings_eq
      obtain ⟨reply, others, replies_eq, rfl, -⟩ := List.map_eq_cons_iff.mp encodings_eq
      rw [replies_eq, List.map_cons] at writtenShort written_eq
      have whole := Frame.cut_joined_cons (List.forall_mem_cons.mp writtenShort).1
        (others.map Message.wire) []
      rw [List.append_nil, ← written_eq, ← arriving] at whole
      simp only [trip, Upstream.Stream.roundTrip, framed, sending, whole]

/-- A query whose upstream cannot be asked, a request of two octets and one that cannot be
read, with the front of a length behind them. The second leaves no trace. -/
theorem framed_requests_framed_replies_mixed :
    let answer := answering (fun _ => false) fun _ => failing { cause := "down" }
    let bodies := [rootQuery.wire, [1, 2], List.replicate 12 255]
    let failed : Message :=
      { flags := {
          response := true
          recursionDesired := true
          recursionAvailable := true
          rcode := 2 }
        questions := [⟨.root, .a, .internet⟩] }
    let unreadable : Message :=
      { id := 65535
        flags := {
          response := true
          recursionDesired := true
          recursionAvailable := true
          rcode := 1 } }
    let served :=
      serveStream answer someEndpoint .closed someStanding (Frame.joined bodies ++ [0])
    (∀ body ∈ bodies, body.length ≤ maxMessageLength) ∧ Frame.Incomplete [0] ∧
      replies (conversation answer someEndpoint someStanding bodies) = [failed, unreadable] ∧
      Frame.cutAll served.written = ([failed.wire, unreadable.wire], []) ∧
      (Upstream.Stream.roundTrip { arriving := served.written } rootQuery.wire).result =
        .ok failed.wire.toArray := by
  intro answer bodies failed unreadable served
  have short : ∀ body ∈ bodies, body.length ≤ maxMessageLength := by decide
  have incomplete : Frame.Incomplete [0] := ⟨[], [0], List.cons_ne_nil _ _, rfl⟩
  have failedReply (standing : Standing) :
      (answer standing ⟨.stream, someEndpoint, rootQuery.wire.toArray⟩).reply = some failed := by
    have read : (⟨.stream, someEndpoint, rootQuery.wire.toArray⟩ : Request).message =
        .ok rootQuery := decode_rootQuery
    simp only [answer, answering, handle, Dispatched.reply_handled, result_dispatch,
      Judgement.verdict_ofRequest, read, Request.replyTo?, Request.errorReply?]
    rfl
  have noReply (standing : Standing) :
      (answer standing ⟨.stream, someEndpoint, [1, 2].toArray⟩).reply = none := by
    rw [← Option.not_isSome_iff_eq_none]
    intro answered
    exact absurd ((isSome_reply_handle_iff _ _ _ _ _).mp answered) (by decide)
  have unreadableReply (standing : Standing) :
      (answer standing ⟨.stream, someEndpoint, (List.replicate 12 255).toArray⟩).reply =
        some unreadable := by
    have unread : (⟨.stream, someEndpoint, (List.replicate 12 255).toArray⟩ : Request).message =
        .error (.opcode 15) := rfl
    simp only [answer, answering, handle, Dispatched.reply_handled, result_dispatch,
      Judgement.verdict_ofRequest, unread, Request.replyTo?, Request.errorReply?]
    rfl
  have replied :
      replies (conversation answer someEndpoint someStanding bodies) = [failed, unreadable] := by
    simp only [bodies, conversation, replies, failedReply, noReply, unreadableReply]
    rfl
  have repliesShort : ∀ reply ∈ [failed, unreadable], reply.wire.length ≤ maxMessageLength := by
    decide
  have encodable : ∀ reply ∈ replies (conversation answer someEndpoint someStanding bodies),
      ∃ octets, reply.encode = .ok octets := by
    rw [replied]
    exact fun reply member => ⟨_, Message.encode_of_short (repliesShort reply member)⟩
  obtain ⟨-, -, encodings, encoded, -, cut, -, asked⟩ :=
    framed_requests_framed_replies _ _ someStanding someEndpoint .closed short incomplete encodable
  rw [replied, mapM_encode_of_short repliesShort] at encoded
  cases encoded
  obtain ⟨-, _, -, -, first⟩ :=
    asked rootQuery.wire { arriving := served.written } (by decide) rfl rfl
  exact ⟨short, incomplete, replied, cut, first _ _ rfl⟩

end Server
end Sinkhole
