import Sinkhole.Proofs.Server.Answers
import Sinkhole.Proofs.Server.Reply

/-!
# The operation code of a reply

A reply should have the operation code of its request. The flags of a message hold a code by its
meaning, and there are numbers of four bits that have none. A request with such a number is not
read, and the reply that is made from its header has the number zero instead. All other replies
have the number of their request.
-/

namespace Sinkhole

open Dns

/-! ## The four bits -/

namespace Dns

/-- The number of the operation code, which takes four bits of the third octet. -/
def opcodeNumber? (octets : Array UInt8) : Option Nat :=
  octets[2]?.map fun octet => octet.toNat / 8 % 16

/-- The numbers that are operation codes. -/
def Opcode.assigned : List Nat :=
  [0, 1, 2, 4, 5, 6]

theorem peekOpcode?_eq (octets : Array UInt8) :
    peekOpcode? octets =
      (opcodeNumber? octets).bind fun number => Opcode.ofCode? (UInt8.ofNat number) := by
  rw [peekOpcode?, opcodeNumber?, Option.bind_map]
  rfl

theorem exists_opcodeNumber?_eq
    {octets : Array UInt8}
    (long : headerLength ≤ octets.size) :
    ∃ number, opcodeNumber? octets = some number := by
  simp only [headerLength] at long
  refine ⟨octets[2].toNat / 8 % 16, ?_⟩
  rw [opcodeNumber?, Array.getElem?_eq_getElem (by omega), Option.map_some]

theorem lt_of_opcodeNumber?_eq
    {octets : Array UInt8}
    {number : Nat}
    (numbered : opcodeNumber? octets = some number) :
    number < 16 := by
  obtain ⟨octet, _, rfl⟩ := Option.map_eq_some_iff.mp numbered
  exact Nat.mod_lt _ (by decide)

theorem Opcode.isSome_ofCode?_iff {number : Nat} (small : number < 16) :
    (ofCode? (UInt8.ofNat number)).isSome = true ↔ number ∈ assigned := by
  revert number
  decide

/-- The code that stands in for a number: its own if it has one, and else that of zero. -/
theorem Opcode.code_getD_ofCode? {number : Nat} (small : number < 16) :
    ((ofCode? (UInt8.ofNat number)).getD .query).code.toNat =
      if number ∈ assigned then number else 0 := by
  revert number
  decide

/-- The octets of a message have the number of the operation code in its flags. -/
theorem Message.opcodeNumber?_of_encode_eq_ok
    {message : Message}
    {octets : Array UInt8}
    (encoded : message.encode = .ok octets) :
    opcodeNumber? octets = some message.flags.opcode.code.toNat := by
  obtain ⟨_, rfl⟩ := encode_eq_ok_iff.mp encoded
  have third : message.wire[2]? = some (UInt8.ofNat (message.flags.bits.toNat / 256)) := rfl
  have bits_eq := message.flags.toNat_bits
  have fields_le := message.flags.fields_le
  rw [opcodeNumber?, List.getElem?_toArray, third, Option.map_some, UInt8.toNat_ofNat']
  congr 1
  omega

end Dns

/-! ## Replies -/

/-- The operation code of a reply is seen in the header of its request, or it is that of
queries. -/
theorem RepliesTo.opcode_eq
    {request : Request}
    {exchange : Exchange}
    {reply : Message}
    (replies : RepliesTo request exchange reply) :
    reply.flags.opcode = (peekOpcode? request.octets).getD .query := by
  have own (query : Message) (read : request.message = .ok query) :
      query.flags.opcode = (peekOpcode? request.octets).getD .query := by
    rw [(hasHeader_of_decode read).opcode_eq, Option.getD_some]
  cases replies with
  | @failed query read error => exact own query read
  | unread made =>
      obtain ⟨_, rfl⟩ := exists_of_headerReply made
      rfl
  | @blocked query question rdata read first data => exact own query read
  | @relayed query response call read exchanged => exact own query read

/-- A request with a number that is no operation code cannot be read. -/
theorem Request.assigned_of_message_eq_ok
    {request : Request}
    {query : Message}
    {number : Nat}
    (read : request.message = .ok query)
    (numbered : opcodeNumber? request.octets = some number) :
    number ∈ Opcode.assigned := by
  have seen := (hasHeader_of_decode read).opcode_eq
  rw [peekOpcode?_eq, numbered, Option.bind_some] at seen
  rw [← Opcode.isSome_ofCode?_iff (lt_of_opcodeNumber?_eq numbered), seen, Option.isSome_some]

/-- A request that is as long as a header has a reply. If the number in the request is an
operation code, the octets of the reply have the same number. Otherwise the reply has octets, and
they have the number zero. -/
theorem reply_echoes_assigned_opcode
    (policy : Policy)
    (exchange : Exchange)
    (chance : Chance)
    (rotation : Rotation Net.Endpoint)
    {request : Request}
    (long : headerLength ≤ request.octets.size) :
    ∃ reply number,
      (handle policy exchange chance rotation request).reply = some reply ∧
        opcodeNumber? request.octets = some number ∧
        (number ∈ Opcode.assigned →
          ∀ octets, reply.encode = .ok octets → opcodeNumber? octets = some number) ∧
        (number ∉ Opcode.assigned →
          ∃ octets, reply.encode = .ok octets ∧ opcodeNumber? octets = some 0) := by
  obtain ⟨reply, replied, replies⟩ := exists_reply policy exchange chance rotation long
  obtain ⟨number, numbered⟩ := exists_opcodeNumber?_eq long
  have echoed (octets : Array UInt8) (encoded : reply.encode = .ok octets) :
      opcodeNumber? octets = some (if number ∈ Opcode.assigned then number else 0) := by
    rw [Message.opcodeNumber?_of_encode_eq_ok encoded, replies.opcode_eq, peekOpcode?_eq,
      numbered, Option.bind_some, Opcode.code_getD_ofCode? (lt_of_opcodeNumber?_eq numbered)]
  refine ⟨reply, number, replied, numbered, fun assigned octets encoded => ?_, fun other => ?_⟩
  · rw [echoed octets encoded, if_pos assigned]
  · have short : reply.wire.length ≤ maxMessageLength := by
      apply replies.short_or_relays.resolve_right
      rintro ⟨query, response, call, read, _⟩
      exact other (Request.assigned_of_message_eq_ok read numbered)
    refine ⟨_, Message.encode_of_short short, ?_⟩
    rw [echoed _ (Message.encode_of_short short), if_neg other]

/-- A header with the code of notices is answered with the same code, whatever becomes of it. -/
theorem reply_echoes_assigned_opcode_notify :
    let octets : Array UInt8 := #[0, 7, 0x20, 0, 0, 0, 0, 0, 0, 0, 0, 0]
    let request : Request := ⟨.datagram, Server.someEndpoint, octets⟩
    let circumstance := Server.failing { cause := "down" }
    let rotation := Server.someStanding.rotation
    headerLength ≤ request.octets.size ∧
      ∃ reply,
        (handle (fun _ => false) circumstance.exchange circumstance.chance rotation
          request).reply = some reply ∧
          ∀ encoded, reply.encode = .ok encoded → opcodeNumber? encoded = some 4 := by
  intro octets request circumstance rotation
  have long : headerLength ≤ request.octets.size := by decide
  obtain ⟨reply, number, replied, numbered, echoed, _⟩ :=
    reply_echoes_assigned_opcode (fun _ => false) circumstance.exchange circumstance.chance
      rotation long
  have four : opcodeNumber? request.octets = some 4 := by decide
  obtain rfl := Option.some.inj (numbered.symm.trans four)
  exact ⟨long, reply, replied, echoed (by decide)⟩

/-- A header with the number three, which is no operation code, is answered with the number
zero. -/
theorem unassigned_opcode_not_echoed :
    let octets : Array UInt8 := #[0, 0, 0x18, 0, 0, 0, 0, 0, 0, 0, 0, 0]
    let encoded : Array UInt8 := #[0, 0, 0x80, 0x81, 0, 0, 0, 0, 0, 0, 0, 0]
    let request : Request := ⟨.datagram, Server.someEndpoint, octets⟩
    let circumstance := Server.failing { cause := "down" }
    let rotation := Server.someStanding.rotation
    headerLength ≤ octets.size ∧
      opcodeNumber? octets = some 3 ∧
      (∃ reply,
        (handle (fun _ => false) circumstance.exchange circumstance.chance rotation
          request).reply = some reply ∧
          reply.encode = .ok encoded) ∧
      opcodeNumber? encoded = some 0 := by
  intro octets encoded request circumstance rotation
  have unread : request.message = .error (.opcode 3) := by decide
  let reply : Message :=
    { flags := {
        response := true
        recursionAvailable := true
        rcode := ResponseCode.formatError.code } }
  have replied : (handle (fun _ => false) circumstance.exchange circumstance.chance rotation
      request).reply = some reply := by
    rw [reply_handle_of_unread rfl unread, headerReply?_of_long (by decide)]
    decide
  have encoding : reply.encode = .ok encoded :=
    Message.encode_eq_ok_iff.mpr ⟨by decide, by decide⟩
  exact ⟨by decide, by decide, ⟨reply, replied, encoding⟩, by decide⟩

end Sinkhole
