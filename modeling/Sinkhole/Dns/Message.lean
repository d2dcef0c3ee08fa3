import Sinkhole.Dns.Record
import Sinkhole.Dns.Reader
import Sinkhole.Dns.Writer

/-!
# Messages

A message has an id, flags and four sections. The module reads and writes its
parts and the whole. Names are written without compression; the length of a
record's data is written as zero first and filled in once the data is there.
-/

namespace Sinkhole
namespace Dns

/-- The length of the fixed part of a message. -/
def headerLength : Nat := 12

/-- The longest datagram that every client accepts. -/
def maxDatagramLength : Nat := 512

/-- A message. -/
structure Message where
  id : UInt16 := 0
  flags : Flags := {}
  questions : List Question := []
  answers : List Record := []
  authority : List Record := []
  additional : List Record := []
  deriving DecidableEq

namespace Question

/-- Read a question. -/
def read : Read Question := do
  let qname ← Reader.name
  let qtype ← Reader.word
  let qclass ← Reader.word
  pure { qname, qtype := .ofCode qtype, qclass := .ofCode qclass }

/-- Write a question. -/
def write (question : Question) : Write Unit := do
  Writer.name question.qname
  Writer.word question.qtype.code
  Writer.word question.qclass.code

end Question

namespace RData

/-- Read the data of a record, without regard to the length declared for it
except where it has to be known. -/
def readLayout (rtype : RecordType) (declared : Nat) : Read RData := do
  match rtype.layout with
  | .ipv4 =>
      if declared ≠ 4 then throw (.fixedLength rtype declared)
      pure (.ipv4 ⟨← Reader.take .octets 4⟩)
  | .ipv6 =>
      if declared ≠ 16 then throw (.fixedLength rtype declared)
      pure (.ipv6 ⟨← Reader.take .octets 16⟩)
  | .name => pure (.name (← Reader.name))
  | .soa =>
      let primary ← Reader.name
      let mailbox ← Reader.name
      let serial ← Reader.longWord
      let refresh ← Reader.longWord
      let retry ← Reader.longWord
      let expire ← Reader.longWord
      let minimum ← Reader.longWord
      pure (.soa primary mailbox serial refresh retry expire minimum)
  | .mx =>
      let priority ← Reader.word
      let host ← Reader.name
      pure (.mx priority host)
  | .srv =>
      let priority ← Reader.word
      let weight ← Reader.word
      let port ← Reader.word
      let target ← Reader.name
      pure (.srv priority weight port target)
  | .raw => pure (.raw (← Reader.octets declared))

/-- Read the data of a record, which has to take exactly its declared length. -/
def read (rtype : RecordType) (declared : Nat) : Read RData := do
  let start ← Reader.currentPosition
  let rdata ← readLayout rtype declared
  let consumed := (← Reader.currentPosition) - start
  if consumed ≠ declared then throw (.dataLength rtype consumed declared)
  pure rdata

/-- Write the data of a record. -/
def write : RData → Write Unit
  | .raw octets => Writer.octets octets
  | .ipv4 address => Writer.octets address.octets.toList
  | .ipv6 address => Writer.octets address.octets.toList
  | .name other => Writer.name other
  | .soa primary mailbox serial refresh retry expire minimum => do
      Writer.name primary
      Writer.name mailbox
      Writer.longWord serial
      Writer.longWord refresh
      Writer.longWord retry
      Writer.longWord expire
      Writer.longWord minimum
  | .mx priority host => do
      Writer.word priority
      Writer.name host
  | .srv priority weight port target => do
      Writer.word priority
      Writer.word weight
      Writer.word port
      Writer.name target

end RData

namespace Record

/-- Read a record. -/
def read : Read Record := do
  let name ← Reader.name
  let rtype ← Reader.word
  let rclass ← Reader.word
  let ttl ← Reader.longWord
  let declared ← Reader.word
  let rdata ← RData.read (.ofCode rtype) declared.toNat
  pure { name, rtype := .ofCode rtype, rclass := .ofCode rclass, ttl, rdata }

/-- Write a record. -/
def write (record : Record) : Write Unit := do
  Writer.name record.name
  Writer.word record.rtype.code
  Writer.word record.rclass.code
  Writer.longWord record.ttl
  let lengthAt ← Writer.position
  Writer.word 0
  let start ← Writer.position
  record.rdata.write
  let length := (← Writer.position) - start
  if length > maxMessageLength then throw .dataTooLong
  Writer.overwrite lengthAt (wordOctets (UInt16.ofNat length))

end Record

namespace Message

/-- Read a whole message. -/
def read : Read Message := do
  let id ← Reader.word
  let flags ← Reader.flags
  let questionCount ← Reader.word
  let answerCount ← Reader.word
  let authorityCount ← Reader.word
  let additionalCount ← Reader.word
  let questions ← Reader.entries questionCount.toNat Question.read
  let answers ← Reader.entries answerCount.toNat Record.read
  let authority ← Reader.entries authorityCount.toNat Record.read
  let additional ← Reader.entries additionalCount.toNat Record.read
  pure { id, flags, questions, answers, authority, additional }

/-- The message at the start of the given octets. -/
def decode (octets : Array UInt8) : Except ReadError Message :=
  match read.run { buffer := octets } with
  | .ok message _ => .ok message
  | .error error _ => .error error

/-- Write the number of a section's entries. -/
def writeCount (count : Nat) : Write Unit := do
  if count > maxMessageLength then throw (.sectionTooLong count)
  Writer.word (UInt16.ofNat count)

/-- Write a whole message. -/
def write (message : Message) : Write Unit := do
  Writer.word message.id
  Writer.word message.flags.bits
  writeCount message.questions.length
  writeCount message.answers.length
  writeCount message.authority.length
  writeCount message.additional.length
  message.questions.forM Question.write
  (message.answers ++ message.authority ++ message.additional).forM Record.write

/-- The octets of a message. -/
def encode (message : Message) : Except WriteError (Array UInt8) :=
  match message.write.run {} with
  | .ok _ writer => .ok writer.written
  | .error error _ => .error error

/-- The message without its records and marked as truncated. It goes into a
datagram in place of a reply that does not fit, so that the client asks again over
a stream. -/
def truncated (message : Message) : Message :=
  { id := message.id
    flags := { message.flags with truncated := true }
    questions := message.questions }

end Message
end Dns
end Sinkhole
