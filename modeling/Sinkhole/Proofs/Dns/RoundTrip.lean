import Sinkhole.Proofs.Dns.Decoding
import Sinkhole.Proofs.Dns.NameText

/-!
# Messages there and back

Reading a message makes sure of what writing it relies on: four bits of response code,
types and classes that are kept by their mnemonics, and data laid out as its type says. So
a message with these properties is decoded from its encoding, and every message that is
decoded from anything has them.
-/

namespace Sinkhole
namespace Dns

/-- The names in the data of a record. -/
def RData.names : RData → List Name
  | .raw _ | .ipv4 _ | .ipv6 _ => []
  | .name other => [other]
  | .soa primary mailbox .. => [primary, mailbox]
  | .mx _ host => [host]
  | .srv _ _ _ target => [target]

namespace Message

/-- The names in a message. -/
def names (message : Message) : List Name :=
  message.questions.map Question.qname ++
    message.records.flatMap fun record => record.name :: record.rdata.names

/-- A message that could have been read: its response code has four bits, and its questions
and records could have been read. Of its names nothing has to be said, since every name is
given by a text. -/
structure WellFormed (message : Message) : Prop where
  rcode_lt : message.flags.rcode < 16
  questions : ∀ question ∈ message.questions, question.WellFormed
  records : ∀ record ∈ message.records, record.WellFormed

/-! ## From a message to its octets and back -/

/-- The records of a message that is not too long are read back. -/
theorem reads_record
    {message : Message}
    (wellFormed : message.WellFormed)
    (short : message.wire.length ≤ maxMessageLength)
    {record : Record}
    (member : record ∈ message.records) :
    Reads Record.read record.wire record := by
  apply Record.reads (wellFormed.records record member)
  exact (length_rdata_le member).trans short

theorem reads
    {message : Message}
    (wellFormed : message.WellFormed)
    (short : message.wire.length ≤ maxMessageLength) :
    Reads read message.wire message := by
  have countable := countable_of_length_wire short
  rw [wire, records, List.flatMap_append, List.flatMap_append]
  simp only [headWire, List.append_assoc]
  refine (Reads.word _).bind ?_
  refine (Reads.flags wellFormed.rcode_lt).bind ?_
  refine (Reads.word _).bind ?_
  refine (Reads.word _).bind ?_
  refine (Reads.word _).bind ?_
  refine (Reads.word _).bind ?_
  rw [toNat_ofNat_of_le countable.questions, toNat_ofNat_of_le countable.answers,
    toNat_ofNat_of_le countable.authority, toNat_ofNat_of_le countable.additional]
  have answers := Reads.entries message.answers fun record member =>
    reads_record wellFormed short (by simp [records, member])
  have authority := Reads.entries message.authority fun record member =>
    reads_record wellFormed short (by simp [records, member])
  have additional := Reads.entries message.additional fun record member =>
    reads_record wellFormed short (by simp [records, member])
  have questions := Reads.entries message.questions fun question member =>
    Question.reads (wellFormed.questions question member)
  refine questions.bind ?_
  refine answers.bind ?_
  refine authority.bind ?_
  exact additional.map _

/-- A well-formed message is decoded from its encoding. -/
theorem decode_encode
    {message : Message}
    (wellFormed : message.WellFormed)
    {octets : Array UInt8}
    (encoded : message.encode = .ok octets) :
    decode octets = .ok message := by
  obtain ⟨short, rfl⟩ := encode_eq_ok_iff.mp encoded
  have read := message.reads wellFormed short [] []
  simp only [List.append_nil, List.nil_append, Reader.between, List.length_nil] at read
  simp [decode, EStateM.run, read]

end Message

/-! ## What is read is well-formed -/

/-- Whatever is read has a property. -/
structure Ensures {α : Type} (read : Read α) (Property : α → Prop) : Prop where
  holds {reader next : Reader} {value : α} (succeeded : read reader = .ok value next) :
    Property value

namespace Ensures

theorem of_pure {α : Type} {Property : α → Prop} {value : α} (holds : Property value) :
    Ensures (pure value) Property where
  holds succeeded := by
    cases succeeded
    exact holds

theorem of_throw {α : Type} {Property : α → Prop} (error : ReadError) :
    Ensures (throw error) Property where
  holds succeeded := by cases succeeded

/-- What the second part reads may depend on what is known of the first. -/
theorem bind
    {α β : Type}
    {first : Read α}
    {second : α → Read β}
    {Known : α → Prop}
    {Property : β → Prop}
    (firstEnsures : Ensures first Known)
    (secondEnsures : ∀ value, Known value → Ensures (second value) Property) :
    Ensures (first >>= second) Property where
  holds succeeded := by
    obtain ⟨value, next, firstRead, secondRead⟩ := exists_of_bind_eq_ok succeeded
    exact (secondEnsures value (firstEnsures.holds firstRead)).holds secondRead

/-- The same when nothing is known of the first part. -/
theorem after
    {α β : Type}
    {first : Read α}
    {second : α → Read β}
    {Property : β → Prop}
    (secondEnsures : ∀ value, Ensures (second value) Property) :
    Ensures (first >>= second) Property :=
  bind ⟨fun _ => trivial⟩ fun value (_ : True) => secondEnsures value

theorem entries
    {α : Type}
    {read : Read α}
    {Property : α → Prop}
    (ensures : Ensures read Property)
    (count : Nat) :
    Ensures (Reader.entries count read) fun values => ∀ value ∈ values, Property value := by
  unfold Reader.entries
  induction count with
  | zero => exact of_pure (by simp)
  | succ count hypothesis =>
      rw [List.replicate_succ, List.mapM_cons]
      refine bind ensures fun value holds => bind hypothesis fun values others => of_pure ?_
      exact List.forall_mem_cons.mpr ⟨holds, others⟩

end Ensures

theorem Flags.rcode_lt_of_ofBits
    {bits : UInt16}
    {flags : Flags}
    (read : ofBits bits = .ok flags) :
    flags.rcode < 16 := by
  unfold ofBits at read
  split at read
  · cases read
  · cases read
    rw [UInt8.lt_iff_toNat_lt, UInt8.toNat_ofNat']
    have small := Nat.mod_lt bits.toNat (show 0 < 16 by decide)
    exact Nat.lt_of_le_of_lt (Nat.mod_le _ _) small

theorem ensures_flags : Ensures Reader.flags fun flags => flags.rcode < 16 := by
  unfold Reader.flags
  refine .after fun bits => ?_
  split
  · next read => exact .of_pure (Flags.rcode_lt_of_ofBits read)
  · exact .of_throw _

namespace RData

theorem ensures_readLayout (rtype : RecordType) (declared : Nat) :
    Ensures (readLayout rtype declared) fun rdata => rdata.layout = rtype.layout := by
  unfold readLayout
  cases rtype.layout with
  | ipv4 =>
      dsimp only
      split
      · exact .after fun _ => .after fun _ => .of_pure rfl
      · exact .after fun _ => .of_pure rfl
  | ipv6 =>
      dsimp only
      split
      · exact .after fun _ => .after fun _ => .of_pure rfl
      · exact .after fun _ => .of_pure rfl
  | name => exact .after fun _ => .of_pure rfl
  | soa =>
      exact .after fun _ => .after fun _ => .after fun _ => .after fun _ => .after fun _ =>
        .after fun _ => .after fun _ => .of_pure rfl
  | mx => exact .after fun _ => .after fun _ => .of_pure rfl
  | srv => exact .after fun _ => .after fun _ => .after fun _ => .after fun _ => .of_pure rfl
  | raw => exact .after fun _ => .of_pure rfl

theorem ensures_read (rtype : RecordType) (declared : Nat) :
    Ensures (read rtype declared) fun rdata => rdata.layout = rtype.layout := by
  unfold read
  refine .after fun _ => .bind (ensures_readLayout rtype declared) fun rdata agrees =>
    .after fun _ => ?_
  dsimp only
  split
  · exact .after fun _ => .of_pure agrees
  · exact .of_pure agrees

end RData

theorem Question.ensures_read : Ensures read WellFormed := by
  unfold read
  exact .after fun _ => .after fun _ => .after fun _ =>
    .of_pure ⟨Coded.proper_ofCode _, Coded.proper_ofCode _⟩

theorem Record.ensures_read : Ensures read WellFormed := by
  unfold read
  exact .after fun _ => .after fun _ => .after fun _ => .after fun _ => .after fun _ =>
    .bind (RData.ensures_read _ _) fun _ agrees =>
      .of_pure ⟨Coded.proper_ofCode _, Coded.proper_ofCode _, agrees⟩

namespace Message

theorem ensures_read : Ensures read WellFormed := by
  unfold read
  refine .after fun _ => .bind ensures_flags fun flags rcode_lt =>
    .after fun _ => .after fun _ => .after fun _ => .after fun _ =>
    .bind (Question.ensures_read.entries _) fun questions ofQuestions =>
    .bind (Record.ensures_read.entries _) fun answers ofAnswers =>
    .bind (Record.ensures_read.entries _) fun authority ofAuthority =>
    .bind (Record.ensures_read.entries _) fun additional ofAdditional => .of_pure ?_
  refine ⟨rcode_lt, ofQuestions, fun record member => ?_⟩
  simp only [records, List.mem_append] at member
  rcases member with (member | member) | member
  · exact ofAnswers record member
  · exact ofAuthority record member
  · exact ofAdditional record member

/-- What is decoded, from whatever octets, is well-formed. -/
theorem wellFormed_of_decode
    {octets : Array UInt8}
    {message : Message}
    (decoded : decode octets = .ok message) :
    message.WellFormed := by
  unfold decode at decoded
  split at decoded
  · next read =>
      cases decoded
      exact ensures_read.holds read
  · cases decoded

/-- The names of a message are given by texts. A well-formed message that can be encoded is
decoded from its encoding. Whatever is decoded is well-formed, however it was written, so
when it can be encoded again it is decoded from that as well. -/
theorem decode_encode_and_wellFormed (message : Message) :
    (∀ name ∈ message.names, ∃ text, Name.parse text = .ok name) ∧
      (message.WellFormed →
        ∀ octets, message.encode = .ok octets → decode octets = .ok message) ∧
      ∀ source, decode source = .ok message →
        message.WellFormed ∧
          ∀ octets, message.encode = .ok octets → decode octets = .ok message := by
  refine ⟨fun name _ => name.exists_text, fun wellFormed octets => decode_encode wellFormed,
    fun source decoded => ?_⟩
  have wellFormed := wellFormed_of_decode decoded
  exact ⟨wellFormed, fun octets => decode_encode wellFormed⟩

/-- A reply about the root name, with its name server. -/
theorem decode_encode_and_wellFormed_root :
    let message : Message :=
      { id := 4660
        flags := { response := true, recursionDesired := true }
        questions := [⟨.root, .ns, .internet⟩]
        answers := [⟨.root, .ns, .internet, 60, .name .root⟩] }
    message.WellFormed ∧ message.encode = .ok message.wire.toArray ∧
      decode message.wire.toArray = .ok message := by
  intro message
  have wellFormed : message.WellFormed := ⟨by decide, by decide, by decide⟩
  have encoded : message.encode = .ok message.wire.toArray :=
    encode_eq_ok_iff.mpr ⟨by decide, rfl⟩
  obtain ⟨_, readBack, ofSource⟩ := decode_encode_and_wellFormed message
  exact ⟨wellFormed, encoded, (ofSource _ (readBack wellFormed _ encoded)).2 _ encoded⟩

end Message
end Dns
end Sinkhole
