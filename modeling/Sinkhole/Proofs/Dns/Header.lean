import Sinkhole.Dns.Peek
import Sinkhole.Proofs.Dns.Encoding

/-!
# The header of a message that can be read

A message that can be read has a whole header in front, and its id and flags are those of
the first four octets. So what is seen of the header alone, without the body, is what
reading the message gives.
-/

namespace Sinkhole
namespace Dns

/-- A number that is read is that of the next two octets. -/
theorem Reader.exists_of_word_eq_ok
    {reader next : Reader}
    {value : UInt16}
    (read : word reader = .ok value next) :
    ∃ high low, reader.buffer[reader.position]? = some high ∧
      reader.buffer[reader.position + 1]? = some low ∧ value = Dns.word high low ∧
      next = { reader with position := reader.position + 2 } := by
  obtain ⟨octets, moved, taken, rest⟩ := exists_of_bind_eq_ok read
  unfold take at taken
  split at taken
  · next enough =>
      cases taken
      cases rest
      simp only [remaining] at enough
      refine ⟨_, _, Array.getElem?_eq_getElem (by omega), Array.getElem?_eq_getElem (by omega),
        ?_, rfl⟩
      simp
  · cases taken

/-- Reading goes on after a number with the octets of the number behind. -/
theorem Reader.exists_of_word_bind_eq_ok
    {α : Type}
    {reader next : Reader}
    {rest : UInt16 → Read α}
    {value : α}
    (read : (word >>= rest) reader = .ok value next) :
    ∃ high low, reader.buffer[reader.position]? = some high ∧
      reader.buffer[reader.position + 1]? = some low ∧
      rest (Dns.word high low) { reader with position := reader.position + 2 } =
        .ok value next := by
  obtain ⟨number, moved, numberRead, restRead⟩ := exists_of_bind_eq_ok read
  obtain ⟨high, low, first, second, rfl, rfl⟩ := exists_of_word_eq_ok numberRead
  exact ⟨high, low, first, second, restRead⟩

/-- Reading goes on after flags that sixteen bits hold. -/
theorem Reader.exists_of_flags_bind_eq_ok
    {α : Type}
    {reader next : Reader}
    {rest : Flags → Read α}
    {value : α}
    (read : (Reader.flags >>= rest) reader = .ok value next) :
    ∃ high low flags, reader.buffer[reader.position]? = some high ∧
      reader.buffer[reader.position + 1]? = some low ∧
      Flags.ofBits (Dns.word high low) = .ok flags ∧
      rest flags { reader with position := reader.position + 2 } = .ok value next := by
  obtain ⟨flags, moved, flagsRead, restRead⟩ := exists_of_bind_eq_ok read
  obtain ⟨high, low, first, second, read⟩ := exists_of_word_bind_eq_ok flagsRead
  cases given : Flags.ofBits (Dns.word high low) with
  | error code =>
      rw [given] at read
      cases read
  | ok other =>
      rw [given] at read
      cases read
      exact ⟨high, low, flags, first, second, given, restRead⟩

/-- Three of the flags that are seen without reading a message are bits of the sixteen. -/
theorem Flags.isSet_of_ofBits
    {bits : UInt16}
    {flags : Flags}
    (read : ofBits bits = .ok flags) :
    flags.response = isSet bits 32768 ∧ flags.truncated = isSet bits 512 ∧
      flags.recursionDesired = isSet bits 256 := by
  unfold ofBits at read
  split at read
  · cases read
  · cases read
    exact ⟨rfl, rfl, rfl⟩

/-- The upper bits of a number of two octets are those of the first octet. -/
theorem Flags.isSet_word (high low : UInt8) (weight : Nat) :
    isSet (word high low) (256 * weight) = (high.toNat / weight % 2 == 1) := by
  have lowBound := low.toNat_lt
  have upper : (word high low).toNat / 256 = high.toNat := by
    rw [toNat_word]
    omega
  rw [isSet, ← Nat.div_div_eq_div_mul, upper]

theorem Flags.ofCode?_of_ofBits
    {bits : UInt16}
    {flags : Flags}
    (read : ofBits bits = .ok flags) :
    Opcode.ofCode? (opcodeBits bits) = some flags.opcode := by
  unfold ofBits at read
  split at read
  · cases read
  · next given =>
      cases read
      exact given

/-- The octets in front of a message: a whole header, with the id and the flags of the
message. -/
structure HasHeader (octets : Array UInt8) (message : Message) : Prop where
  long : headerLength ≤ octets.size
  id_eq : ∃ high low, octets[0]? = some high ∧ octets[1]? = some low ∧
    message.id = word high low
  flags_eq : ∃ high low, octets[2]? = some high ∧ octets[3]? = some low ∧
    Flags.ofBits (word high low) = .ok message.flags

/-- A message that can be read has its header in front. -/
theorem hasHeader_of_decode
    {octets : Array UInt8}
    {message : Message}
    (decoded : Message.decode octets = .ok message) :
    HasHeader octets message := by
  unfold Message.decode at decoded
  split at decoded
  · next read =>
      cases decoded
      obtain ⟨idHigh, idLow, first, second, rest⟩ := Reader.exists_of_word_bind_eq_ok read
      obtain ⟨flagsHigh, flagsLow, flags, third, fourth, flags_eq, rest⟩ :=
        Reader.exists_of_flags_bind_eq_ok rest
      -- The four counts only show that the header is whole.
      obtain ⟨_, _, _, _, rest⟩ := Reader.exists_of_word_bind_eq_ok rest
      obtain ⟨_, _, _, _, rest⟩ := Reader.exists_of_word_bind_eq_ok rest
      obtain ⟨_, _, _, _, rest⟩ := Reader.exists_of_word_bind_eq_ok rest
      obtain ⟨_, _, _, last, rest⟩ := Reader.exists_of_word_bind_eq_ok rest
      obtain ⟨_, _, _, rest⟩ := exists_of_bind_eq_ok rest
      obtain ⟨_, _, _, rest⟩ := exists_of_bind_eq_ok rest
      obtain ⟨_, _, _, rest⟩ := exists_of_bind_eq_ok rest
      obtain ⟨_, _, _, rest⟩ := exists_of_bind_eq_ok rest
      cases rest
      obtain ⟨whole, _⟩ := Array.getElem?_eq_some_iff.mp last
      exact ⟨whole, ⟨idHigh, idLow, first, second, rfl⟩,
        ⟨flagsHigh, flagsLow, third, fourth, flags_eq⟩⟩
  · cases decoded

namespace HasHeader

variable {octets : Array UInt8} {message : Message}

/-- The lowest bit of the third octet says whether recursion is desired. -/
theorem recursionDesired_eq (header : HasHeader octets message) :
    message.flags.recursionDesired = peekRecursionDesired octets := by
  obtain ⟨high, low, third, _, flags_eq⟩ := header.flags_eq
  rw [(Flags.isSet_of_ofBits flags_eq).2.2, Flags.isSet_word high low 1, Nat.div_one,
    peekRecursionDesired, third, Option.any_some]

/-- The highest bit of the third octet says whether the message is a response. -/
theorem response_eq (header : HasHeader octets message) :
    message.flags.response = peekResponse octets := by
  obtain ⟨high, low, third, _, flags_eq⟩ := header.flags_eq
  rw [(Flags.isSet_of_ofBits flags_eq).1, Flags.isSet_word high low 128, peekResponse, third,
    Option.any_some]

/-- The lowest bit but one of the third octet says whether the message is truncated. -/
theorem truncated_eq (header : HasHeader octets message) :
    message.flags.truncated = peekTruncated octets := by
  obtain ⟨high, low, third, _, flags_eq⟩ := header.flags_eq
  rw [(Flags.isSet_of_ofBits flags_eq).2.1, Flags.isSet_word high low 2, peekTruncated, third,
    Option.any_some]

/-- The operation code is among the bits of the third octet, and has a meaning. -/
theorem opcode_eq (header : HasHeader octets message) :
    peekOpcode? octets = some message.flags.opcode := by
  obtain ⟨high, low, third, _, flags_eq⟩ := header.flags_eq
  have lowBound := low.toNat_lt
  have bits : (word high low).toNat / 2048 % 16 = high.toNat / 8 % 16 := by
    rw [toNat_word]
    omega
  rw [← Flags.ofCode?_of_ofBits flags_eq, Flags.opcodeBits, bits, peekOpcode?, third,
    Option.bind_some]

end HasHeader
end Dns
end Sinkhole
