import Sinkhole.Proofs.Resolver.Decision
import Sinkhole.Proofs.Server.Answers
import Sinkhole.Proofs.Upstream.Selection

/-!
# What reaches the client

A reply does not depend on the way its request came in. On a stream it is delivered in full.
In a datagram it is delivered in full if it fits, and else without its records and marked as
truncated, which always fits: there is at most one question in a reply. Either way the client
decodes from what it gets the message that was meant for it, because the records of a reply
are the server's own or come from a response that was decoded.
-/

namespace Sinkhole

open Dns

/-- Every response that a way of asking upstreams gives was decoded from some octets. -/
def Exchange.Decodes (exchange : Exchange) : Prop :=
  ∀ query upstream response, (exchange query upstream).result = .ok response →
    ∃ octets, Message.decode octets = .ok response

/-! ## Replies are well-formed -/

namespace Upstream

/-- A response over a connection was decoded. -/
theorem exists_decode_of_stream_ask
    {link : StreamLink}
    {server : Option Net.ServerName}
    {query response : Message}
    {upstream : Net.Endpoint}
    (asked : (Stream.ask link server query upstream).result = .ok response) :
    ∃ octets, Message.decode octets = .ok response := by
  unfold Stream.ask at asked
  split at asked
  · cases asked
  · split at asked
    · cases asked
    · split at asked
      · cases asked
      · dsimp only at asked
        split at asked
        · cases asked
        · exact ⟨_, exists_of_decodeResponse_eq_ok asked⟩

/-- A response in a datagram was decoded, and so was one that was asked for again. -/
theorem exists_decode_of_datagram_ask
    {links : Links}
    {query response : Message}
    {upstream : Net.Endpoint}
    (asked : (Datagram.ask links query upstream).result = .ok response) :
    ∃ octets, Message.decode octets = .ok response := by
  unfold Datagram.ask at asked
  split at asked
  · cases asked
  · dsimp only at asked
    split at asked
    · cases asked
    · split at asked
      · exact exists_decode_of_stream_ask asked
      · exact ⟨_, exists_of_decodeResponse_eq_ok asked⟩

/-- Upstreams are asked in a way that decodes, whatever the network does. -/
theorem decodes_exchange (carrier : Carrier) (links : Net.Endpoint → Links) :
    (exchange carrier links).Decodes := by
  intro query upstream response asked
  cases carrier with
  | datagram => exact exists_decode_of_datagram_ask asked
  | stream => exact exists_decode_of_stream_ask asked
  | secure server => exact exists_decode_of_stream_ask asked

end Upstream

theorem Dns.ResponseCode.code_lt (responseCode : ResponseCode) : responseCode.code < 16 := by
  cases responseCode <;> decide

/-- A reply is well-formed if the query and the answers are. -/
theorem Dns.Message.WellFormed.replyWith
    {query : Message}
    (wellFormed : query.WellFormed)
    (responseCode : ResponseCode)
    {answers : List Record}
    (ofAnswers : ∀ record ∈ answers, record.WellFormed) :
    (query.replyWith responseCode answers).WellFormed where
  rcode_lt := responseCode.code_lt
  questions question member := wellFormed.questions question (List.mem_of_mem_take member)
  records record member := by
    have records_eq : (query.replyWith responseCode answers).records = answers := by
      simp [Message.records, Message.replyWith]
    rw [records_eq] at member
    exact ofAnswers record member

/-- A message keeps its form when it is truncated. -/
theorem Dns.Message.WellFormed.truncated
    {message : Message}
    (wellFormed : message.WellFormed) :
    message.truncated.WellFormed where
  rcode_lt := wellFormed.rcode_lt
  questions := wellFormed.questions
  records record member := by cases member

/-- A reply that is made from a header is well-formed. -/
theorem wellFormed_of_headerReply
    {octets : Array UInt8}
    {error : ResolveError}
    {reply : Message}
    (made : headerReply? octets error = some reply) :
    reply.WellFormed := by
  obtain ⟨noQuestions, noRecords⟩ := sections_of_headerReply made
  refine ⟨?_, by simp [noQuestions], by simp [noRecords]⟩
  obtain ⟨_, rfl⟩ := exists_of_headerReply made
  exact error.responseCode.code_lt

/-- The blocked answer is well-formed: the two types that get one have a mnemonic, and the
address is laid out as the type says. -/
theorem wellFormed_blockedAnswer
    {question : Question}
    {rdata : RData}
    (data : blockedData? question.qtype = some rdata) :
    (blockedAnswer question rdata).WellFormed := by
  obtain ⟨typed, rfl⟩ := blockedData?_eq_some_iff.mp data
  have proper : question.qtype.Proper := by
    rcases typed with typed | typed <;> rw [typed] <;> exact Coded.proper_named _
  have layout_eq : (zeroAddress question.qtype).layout = question.qtype.layout := by
    rcases typed with typed | typed <;> rw [typed] <;> rfl
  exact ⟨proper, Coded.proper_named _, layout_eq⟩

/-- Replies are well-formed: their records are made here or come from a response that was
decoded. -/
theorem RepliesTo.wellFormed
    {request : Request}
    {exchange : Exchange}
    {reply : Message}
    (decodes : exchange.Decodes)
    (replies : RepliesTo request exchange reply) :
    reply.WellFormed := by
  cases replies with
  | failed read error =>
      rw [errorReply_eq]
      exact (Message.wellFormed_of_decode read).replyWith _ (by simp)
  | unread made => exact wellFormed_of_headerReply made
  | blocked read first data =>
      rw [answerReply_eq]
      refine (Message.wellFormed_of_decode read).replyWith _ fun record member => ?_
      obtain rfl := List.mem_singleton.mp member
      exact wellFormed_blockedAnswer data
  | relayed read exchanged =>
      obtain ⟨octets, decoded⟩ := decodes _ _ _ exchanged
      have ofResponse := Message.wellFormed_of_decode decoded
      rw [answerReply_eq]
      refine (Message.wellFormed_of_decode read).replyWith _ fun record member => ?_
      exact ofResponse.records record (by simp [Message.records, member])

/-! ## Datagrams and streams alike -/

/-- A reply depends on the octets of the request, and neither on how nor on from where they
came. -/
theorem reply_handle_congr
    (policy : Policy)
    (exchange : Exchange)
    (chance : Chance)
    (rotation : Rotation Net.Endpoint)
    {first second : Request}
    (same : first.octets = second.octets) :
    (handle policy exchange chance rotation first).reply =
      (handle policy exchange chance rotation second).reply := by
  have message_eq : first.message = second.message := congrArg Message.decode same
  have result_eq : (dispatch policy exchange chance rotation first).result =
      (dispatch policy exchange chance rotation second).result := by
    rw [result_dispatch, result_dispatch, Judgement.verdict_ofRequest,
      Judgement.verdict_ofRequest, message_eq]
  rw [handle, handle, Dispatched.reply_handled, Dispatched.reply_handled, result_eq]
  unfold Request.replyTo? Request.errorReply?
  rw [message_eq, same]

namespace Server

/-- The reply to a request does not depend on how it came in. If the reply can be encoded,
its octets are what is put into a frame on a stream, and a datagram consists of them if they
fit. Otherwise it consists of those of the reply without its records and with the mark of
truncation, which always fit. What is sent is decoded as what was to be sent. -/
theorem delivered_in_full_or_truncated
    (policy : Policy)
    (circumstances : Nat → Circumstance)
    (standing : Standing)
    (decodes : (circumstances standing.handled).exchange.Decodes)
    (octets : Array UInt8)
    (long : headerLength ≤ octets.size) :
    let circumstance := circumstances standing.handled
    let handled := handle policy circumstance.exchange circumstance.chance standing.rotation
    ∃ reply : Message,
      (∀ arrival client, (handled ⟨arrival, client, octets⟩).reply = some reply) ∧
      ∀ encoded, reply.encode = .ok encoded →
        Message.decode encoded = .ok reply ∧
        (∀ frame client ending rest, Frame.around? octets.toList = some frame →
          let serve := serveStream (answering policy circumstances) client ending
          let answered := answering policy circumstances standing ⟨.stream, client, octets⟩
          ∃ written, Frame.around? encoded.toList = some written ∧
            (serve standing (frame ++ rest)).written =
              written ++ (serve answered.state rest).written) ∧
        ∃ sent,
          (∀ client, (sendDatagram client (handled ⟨.datagram, client, octets⟩)).sent =
            some sent) ∧
          sent.size ≤ maxDatagramLength ∧
          (encoded.size ≤ maxDatagramLength → sent = encoded) ∧
          (maxDatagramLength < encoded.size →
            let cut : Message :=
              { id := reply.id
                flags := { reply.flags with truncated := true }
                questions := reply.questions
                answers := []
                authority := []
                additional := [] }
            cut.encode = .ok sent ∧ Message.decode sent = .ok cut) := by
  intro circumstance handled
  let request : Request := ⟨.stream, someEndpoint, octets⟩
  have requestLong : headerLength ≤ request.octets.size := long
  obtain ⟨reply, replied, replies⟩ :=
    exists_reply policy circumstance.exchange circumstance.chance standing.rotation requestLong
  have wellFormed := replies.wellFormed decodes
  -- One question at most is what lets the truncated reply fit.
  have single := replies.length_questions_le
  have anyway (arrival : Arrival) (client : Net.Endpoint) :
      (handled ⟨arrival, client, octets⟩).reply = some reply := by
    rw [← replied]
    exact reply_handle_congr _ _ _ _ rfl
  refine ⟨reply, anyway, fun encoded encoding => ?_⟩
  obtain ⟨short, rfl⟩ := Message.encode_eq_ok_iff.mp encoding
  refine ⟨Message.decode_encode wellFormed encoding, ?_, ?_⟩
  · intro frame client ending rest framed serve answered
    refine ⟨_, Frame.around?_of_short short, ?_⟩
    have whole := Frame.cut_append framed rest
    exact written_serveStream_of_short whole (anyway .stream client) short
  · have sent_eq (client : Net.Endpoint) :=
      sent_sendDatagram (anyway .datagram client) single client
    by_cases fits : reply.wire.length ≤ maxDatagramLength
    · refine ⟨reply.wire.toArray, fun client => ?_, fits, fun _ => rfl, fun large => ?_⟩
      · rw [sent_eq, if_pos fits]
      · exact absurd fits (Nat.not_le.mpr large)
    · have cutFits := Message.length_wire_truncated_le single
      have cutEncoding := Message.encode_of_short (cutFits.trans maxDatagramLength_le)
      refine ⟨reply.truncated.wire.toArray, fun client => ?_, cutFits, fun small => ?_, fun _ => ?_⟩
      · rw [sent_eq, if_neg fits, if_pos short]
      · exact absurd small fits
      · exact ⟨cutEncoding, Message.decode_encode wellFormed.truncated cutEncoding⟩

theorem decodes_answeredBy_textResponse
    {size : Nat}
    (short : (textResponse size).wire.length ≤ maxMessageLength) :
    (answeredBy (textResponse size)).exchange.Decodes := by
  intro query upstream response exchanged
  cases exchanged
  exact ⟨_, decode_textResponse size short⟩

/-- The query for the root name is answered with too much text for a datagram. -/
theorem delivered_in_full_or_truncated_wide :
    let circumstance := answeredBy (textResponse 600)
    let octets := rootQuery.wire.toArray
    let handled := handle ({} : Blocklist).policy circumstance.exchange circumstance.chance
      someStanding.rotation ⟨.datagram, someEndpoint, octets⟩
    circumstance.exchange.Decodes ∧ headerLength ≤ octets.size ∧
      ∃ sent, (sendDatagram someEndpoint handled).sent = some sent ∧
        sent.size ≤ maxDatagramLength ∧
        Message.decode sent = .ok
          { flags := {
              response := true
              truncated := true
              recursionDesired := true
              recursionAvailable := true }
            questions := [⟨.root, .a, .internet⟩] } := by
  intro circumstance octets handled
  have long : headerLength ≤ octets.size := by decide
  have decodes : circumstance.exchange.Decodes := decodes_answeredBy_textResponse <| by
    rw [length_wire_textResponse]
    decide
  refine ⟨decodes, long, ?_⟩
  obtain ⟨reply, replied, delivered⟩ :=
    delivered_in_full_or_truncated ({} : Blocklist).policy (fun _ => circumstance) someStanding
      decodes octets long
  have relayed : handled.reply = some (answerReply rootQuery (textResponse 600).answers) :=
    reply_handle_answeredBy decode_rootQuery rfl (List.cons_ne_nil _ _)
  obtain rfl := Option.some.inj ((replied .datagram someEndpoint).symm.trans relayed)
  have size_eq := length_wire_textReply 600
  have short : (answerReply rootQuery (textResponse 600).answers).wire.length ≤
      maxMessageLength := by
    rw [size_eq]
    decide
  have encoded := Message.encode_of_short short
  obtain ⟨_, _, sent, sent_eq, fits, _, cut⟩ := delivered _ encoded
  have large : maxDatagramLength <
      (answerReply rootQuery (textResponse 600).answers).wire.toArray.size := by
    rw [List.size_toArray, size_eq]
    decide
  exact ⟨sent, sent_eq someEndpoint, fits, (cut large).2⟩

end Server
end Sinkhole
