import Sinkhole.Dns.Message
import Mathlib.Data.List.Basic

/-!
# What a message is on the wire

Each piece of a message has its octets, and writing the piece appends them as long as
they fit. The length that is filled in behind a record's data comes to writing it in
front of the data. So a message has an encoding exactly when its octets are few enough,
and the encoding is those octets.
-/

namespace Sinkhole
namespace Dns

/-- The octets of a question. -/
def Question.wire (question : Question) : List UInt8 :=
  question.qname.wire ++ wordOctets question.qtype.code ++ wordOctets question.qclass.code

/-- The octets of the data of a record. -/
def RData.wire : RData → List UInt8
  | .raw octets => octets
  | .ipv4 address => address.octets.toList
  | .ipv6 address => address.octets.toList
  | .name other => other.wire
  | .soa primary mailbox serial refresh retry expire minimum =>
      primary.wire ++ mailbox.wire ++ longWordOctets serial ++ longWordOctets refresh ++
        longWordOctets retry ++ longWordOctets expire ++ longWordOctets minimum
  | .mx priority host => wordOctets priority ++ host.wire
  | .srv priority weight port target =>
      wordOctets priority ++ wordOctets weight ++ wordOctets port ++ target.wire

/-- The octets of a record before the length of its data. -/
def Record.headWire (record : Record) : List UInt8 :=
  record.name.wire ++ wordOctets record.rtype.code ++ wordOctets record.rclass.code ++
    longWordOctets record.ttl

/-- The octets of a record. -/
def Record.wire (record : Record) : List UInt8 :=
  record.headWire ++ wordOctets (UInt16.ofNat record.rdata.wire.length) ++ record.rdata.wire

namespace Message

/-- The records of a message, whatever their section. -/
def records (message : Message) : List Record :=
  message.answers ++ message.authority ++ message.additional

/-- The octets of the fixed part of a message. -/
def headWire (message : Message) : List UInt8 :=
  wordOctets message.id ++ wordOctets message.flags.bits ++
    wordOctets (UInt16.ofNat message.questions.length) ++
    wordOctets (UInt16.ofNat message.answers.length) ++
    wordOctets (UInt16.ofNat message.authority.length) ++
    wordOctets (UInt16.ofNat message.additional.length)

/-- The octets of a message. -/
def wire (message : Message) : List UInt8 :=
  message.headWire ++ message.questions.flatMap Question.wire ++
    message.records.flatMap Record.wire

end Message

/-! ## Sizes -/

theorem Question.length_wire (question : Question) :
    question.wire.length = wireLength question.qname.labels + 4 := by
  simp [wire, Name.length_wire]

theorem Record.length_wire (record : Record) :
    record.wire.length = wireLength record.name.labels + 10 + record.rdata.wire.length := by
  simp only [wire, headWire, List.length_append, Name.length_wire, length_wordOctets,
    length_longWordOctets]

theorem Message.length_wire (message : Message) :
    message.wire.length =
      headerLength + (message.questions.flatMap Question.wire).length +
        (message.records.flatMap Record.wire).length := by
  simp only [wire, headWire, headerLength, List.length_append, length_wordOctets]

theorem Record.length_rdata_le
    {record : Record}
    {records : List Record}
    (member : record ∈ records) :
    record.rdata.wire.length ≤ (records.flatMap wire).length := by
  have whole : record.wire.Sublist (records.flatMap wire) := by
    rw [List.flatMap_def]
    exact List.sublist_flatten_of_mem (List.mem_map_of_mem member)
  have length_le := whole.length_le
  rw [wire, List.length_append] at length_le
  omega

/-- The data of a record takes no more octets than the message. -/
theorem Message.length_rdata_le
    {message : Message}
    {record : Record}
    (member : record ∈ message.records) :
    record.rdata.wire.length ≤ message.wire.length := by
  have length_le := Record.length_rdata_le member
  rw [wire, List.length_append]
  omega

/-! ## Pieces -/

/-- What succeeds in two parts succeeds in each of them. -/
theorem exists_of_bind_eq_ok
    {ε σ α β : Type}
    {first : EStateM ε σ α}
    {second : α → EStateM ε σ β}
    {state last : σ}
    {result : β}
    (succeeded : (first >>= second) state = .ok result last) :
    ∃ value next, first state = .ok value next ∧ second value next = .ok result last := by
  simp only [Bind.bind, EStateM.bind] at succeeded
  cases done : first state with
  | ok value next =>
      rw [done] at succeeded
      exact ⟨value, next, rfl, succeeded⟩
  | error error next =>
      rw [done] at succeeded
      cases succeeded

/-- The root is a single octet. -/
theorem Name.wire_of_isRoot {name : Name} (root : name.isRoot = true) : name.wire = [0] := by
  rw [wire, List.isEmpty_iff.mp root, List.flatMap_nil, List.nil_append]

/-- A writer with more octets written. -/
def Writer.appended (writer : Writer) (octets : List UInt8) : Writer :=
  { writer with written := writer.written ++ octets }

@[simp] theorem Writer.limit_appended (writer : Writer) (octets : List UInt8) :
    (writer.appended octets).limit = writer.limit :=
  rfl

@[simp] theorem Writer.size_written_appended (writer : Writer) (octets : List UInt8) :
    (writer.appended octets).written.size = writer.written.size + octets.length := by
  simp [appended, ← Array.length_toList]

@[simp] theorem Writer.appended_appended (writer : Writer) (first second : List UInt8) :
    (writer.appended first).appended second = writer.appended (first ++ second) := by
  simp [appended, ← Array.toList_inj]

@[simp] theorem Writer.appended_nil (writer : Writer) : writer.appended [] = writer := by
  simp [appended]

/-- A writer is within its limit, and that is within the one for messages. -/
structure Writer.Sound (writer : Writer) : Prop where
  size_le : writer.written.size ≤ writer.limit
  limit_le : writer.limit ≤ maxMessageLength

/-- An error for want of space: a piece would have gone over the limit. -/
inductive WriteError.ForSpace (limit : Nat) : WriteError → Prop
  | overflow
      {piece : Piece}
      {needed current : Nat}
      (full : limit < current + needed) :
      ForSpace limit (.overflow piece needed current limit)

/-- A piece is written as the given octets: they are appended when they fit, and there is
an error for want of space when they do not. -/
structure Writes (write : Write Unit) (octets : List UInt8) : Prop where
  appends {writer : Writer}
    (sound : writer.Sound)
    (fits : writer.written.size + octets.length ≤ writer.limit) :
    write writer = .ok () (writer.appended octets)
  fails {writer : Writer}
    (sound : writer.Sound)
    (overflows : writer.limit < writer.written.size + octets.length) :
    ∃ error next, write writer = .error error next ∧ error.ForSpace writer.limit

theorem Writer.Sound.appended
    {writer : Writer}
    (sound : writer.Sound)
    {octets : List UInt8}
    (fits : writer.written.size + octets.length ≤ writer.limit) :
    (writer.appended octets).Sound where
  size_le := by simpa using fits
  limit_le := sound.limit_le

namespace Writes

theorem append (piece : Piece) (octets : List UInt8) :
    Writes (Writer.append piece octets) octets where
  appends _ fits := by
    simp [Writer.append, fits, Writer.appended]
  fails {writer} _ overflows := by
    have full := Nat.not_le.mpr overflows
    refine ⟨.overflow piece octets.length writer.written.size writer.limit, writer, ?_,
      .overflow overflows⟩
    simp only [Writer.append, full, if_false]

theorem word (value : UInt16) : Writes (Writer.word value) (wordOctets value) :=
  append .word _

theorem longWord (value : UInt32) : Writes (Writer.longWord value) (longWordOctets value) :=
  append .longWord _

theorem octets (values : List UInt8) : Writes (Writer.octets values) values :=
  append .octets values

theorem name (name : Name) : Writes (Writer.name name) name.wire := by
  unfold Writer.name
  split
  · next root =>
      rw [Name.wire_of_isRoot root]
      exact append .octet [0]
  · exact append .name name.wire

/-- Nothing is written. -/
theorem nothing : Writes (pure ()) [] where
  appends _ _ := by simp [pure, EStateM.pure]
  fails sound overflows := by
    have room := sound.size_le
    rw [List.length_nil] at overflows
    omega

/-- One piece after the other. -/
theorem bind
    {first second : Write Unit}
    {firstOctets secondOctets : List UInt8}
    (firstWrites : Writes first firstOctets)
    (secondWrites : Writes second secondOctets) :
    Writes (first >>= fun _ => second) (firstOctets ++ secondOctets) := by
  constructor
  · intro writer sound fits
    rw [List.length_append] at fits
    have written := firstWrites.appends sound (by omega)
    have soundNext : (writer.appended firstOctets).Sound := sound.appended (by omega)
    have next := secondWrites.appends soundNext (by simp; omega)
    simp only [Bind.bind, EStateM.bind, written, next, Writer.appended_appended]
  · intro writer sound overflows
    rw [List.length_append] at overflows
    by_cases fits : writer.written.size + firstOctets.length ≤ writer.limit
    · have written := firstWrites.appends sound fits
      have next := secondWrites.fails (sound.appended fits) (by simp; omega)
      simpa only [Bind.bind, EStateM.bind, written, Writer.limit_appended] using next
    · obtain ⟨error, next, failed, full⟩ := firstWrites.fails sound (by omega)
      exact ⟨error, next, by simp only [Bind.bind, EStateM.bind, failed], full⟩

/-- Pieces of the same kind, one after the other. -/
theorem forM
    {α : Type}
    {write : α → Write Unit}
    {octets : α → List UInt8}
    (writes : ∀ entry, Writes (write entry) (octets entry))
    (entries : List α) :
    Writes (entries.forM write) (entries.flatMap octets) := by
  induction entries with
  | nil => exact nothing
  | cons entry rest hypothesis =>
      rw [List.flatMap_cons]
      exact (writes entry).bind hypothesis

end Writes

/-! ## Lengths that are filled in -/

/-- Octets that are replaced keep what is before and behind them. -/
theorem replaceFrom_append
    {replaced octets : List UInt8}
    (length_eq : replaced.length = octets.length)
    (before after : List UInt8) :
    replaceFrom (before ++ replaced ++ after).toArray before.length octets =
      (before ++ octets ++ after).toArray := by
  induction octets generalizing before replaced with
  | nil =>
      rw [List.length_nil, List.length_eq_zero_iff] at length_eq
      rw [replaceFrom, length_eq]
  | cons octet rest hypothesis =>
      obtain ⟨first, replaced, rfl⟩ := List.exists_cons_of_length_eq_add_one length_eq
      rw [List.length_cons, List.length_cons, Nat.add_right_cancel_iff] at length_eq
      have next := hypothesis length_eq (before ++ [octet])
      simp only [List.length_append, List.length_singleton] at next
      rw [replaceFrom]
      simpa using next

/-- Octets that were written last are replaced in place. -/
theorem Writer.overwrite_appended
    {writer : Writer}
    (sound : writer.Sound)
    {replaced octets after : List UInt8}
    (length_eq : replaced.length = octets.length)
    (fits : writer.written.size + (replaced ++ after).length ≤ writer.limit) :
    Writer.overwrite writer.written.size octets (writer.appended (replaced ++ after)) =
      .ok () (writer.appended (octets ++ after)) := by
  have limit_le := sound.limit_le
  rw [List.length_append] at fits
  have small : ¬UInt64.size ≤ writer.written.size + octets.length := by
    simp only [maxMessageLength, UInt64.size] at limit_le ⊢
    omega
  have inside : writer.written.size + octets.length ≤
      (writer.appended (replaced ++ after)).written.size := by
    simp only [Writer.size_written_appended, List.length_append]
    omega
  rw [Writer.overwrite, if_neg small, if_pos inside]
  obtain ⟨⟨before⟩, limit⟩ := writer
  simpa [Writer.appended] using replaceFrom_append length_eq before after

/-- A length that is filled in behind some octets is written in front of them. -/
theorem Writes.measured {data : Write Unit} {octets : List UInt8} (writes : Writes data octets) :
    Writes
      (do
        let lengthAt ← Writer.position
        Writer.word 0
        let start ← Writer.position
        data
        let length := (← Writer.position) - start
        if length > maxMessageLength then throw .dataTooLong
        Writer.overwrite lengthAt (wordOctets (UInt16.ofNat length)))
      (wordOctets (UInt16.ofNat octets.length) ++ octets) := by
  constructor
  · intro writer sound fits
    have limit_le := sound.limit_le
    simp only [List.length_append, length_wordOctets] at fits
    have soundNext : (writer.appended (wordOctets 0)).Sound := sound.appended (by simp; omega)
    have zero := (Writes.word 0).appends sound (by simp; omega)
    have written := writes.appends soundNext (by simp; omega)
    have measured :
        (writer.appended (wordOctets 0 ++ octets)).written.size -
          (writer.appended (wordOctets 0)).written.size = octets.length := by
      simp
      omega
    have short : ¬octets.length > maxMessageLength := by omega
    simp only [Bind.bind, EStateM.bind, Writer.position, zero, written,
      Writer.appended_appended, measured, short, if_false]
    exact Writer.overwrite_appended sound rfl (by simp; omega)
  · intro writer sound overflows
    simp only [List.length_append, length_wordOctets] at overflows
    by_cases fits : writer.written.size + 2 ≤ writer.limit
    · have soundNext : (writer.appended (wordOctets 0)).Sound := sound.appended fits
      have zero := (Writes.word 0).appends sound fits
      obtain ⟨error, next, failed, full⟩ := writes.fails soundNext (by simp; omega)
      refine ⟨error, next, ?_, full⟩
      simp only [Bind.bind, EStateM.bind, Writer.position, zero, failed]
    · obtain ⟨error, next, failed, full⟩ := (Writes.word 0).fails sound (by simp; omega)
      refine ⟨error, next, ?_, full⟩
      simp only [Bind.bind, EStateM.bind, Writer.position, failed]

/-! ## Messages -/

namespace Question

theorem writes (question : Question) : Writes question.write question.wire := by
  rw [wire, List.append_assoc]
  refine (Writes.name _).bind ?_
  exact (Writes.word _).bind (Writes.word _)

end Question

theorem RData.writes (rdata : RData) : Writes rdata.write rdata.wire := by
  cases rdata with
  | raw octets => exact Writes.octets octets
  | ipv4 address => exact Writes.octets _
  | ipv6 address => exact Writes.octets _
  | name other => exact Writes.name other
  | soa primary mailbox serial refresh retry expire minimum =>
      simp only [wire, List.append_assoc]
      refine (Writes.name primary).bind ?_
      refine (Writes.name mailbox).bind ?_
      refine (Writes.longWord serial).bind ?_
      refine (Writes.longWord refresh).bind ?_
      refine (Writes.longWord retry).bind ?_
      exact (Writes.longWord expire).bind (Writes.longWord minimum)
  | mx priority host => exact (Writes.word priority).bind (Writes.name host)
  | srv priority weight port target =>
      simp only [wire, List.append_assoc]
      refine (Writes.word priority).bind ?_
      refine (Writes.word weight).bind ?_
      exact (Writes.word port).bind (Writes.name target)

theorem Record.writes (record : Record) : Writes record.write record.wire := by
  simp only [wire, headWire, List.append_assoc]
  refine (Writes.name _).bind ?_
  refine (Writes.word _).bind ?_
  refine (Writes.word _).bind ?_
  exact (Writes.longWord _).bind record.rdata.writes.measured

namespace Message

theorem writes_count {count : Nat} (short : count ≤ maxMessageLength) :
    Writes (writeCount count) (wordOctets (UInt16.ofNat count)) := by
  have notLong : ¬count > maxMessageLength := Nat.not_lt.mpr short
  simp only [writeCount, notLong, if_false]
  exact Writes.word _

/-- The numbers of entries can all be written. -/
structure Countable (message : Message) : Prop where
  questions : message.questions.length ≤ maxMessageLength
  answers : message.answers.length ≤ maxMessageLength
  authority : message.authority.length ≤ maxMessageLength
  additional : message.additional.length ≤ maxMessageLength

theorem writes {message : Message} (countable : message.Countable) :
    Writes message.write message.wire := by
  simp only [wire, headWire, List.append_assoc]
  refine (Writes.word _).bind ?_
  refine (Writes.word _).bind ?_
  refine (writes_count countable.questions).bind ?_
  refine (writes_count countable.answers).bind ?_
  refine (writes_count countable.authority).bind ?_
  refine (writes_count countable.additional).bind ?_
  exact (Writes.forM Question.writes _).bind (Writes.forM Record.writes _)

theorem le_of_writeCount
    {count : Nat}
    {writer next : Writer}
    (written : writeCount count writer = .ok () next) :
    count ≤ maxMessageLength := by
  by_contra long
  simp only [writeCount, Nat.lt_of_not_le long, if_true] at written
  cases written

/-- What is written has few enough entries. -/
theorem countable_of_write
    {message : Message}
    {writer last : Writer}
    (written : message.write writer = .ok () last) :
    message.Countable := by
  unfold write at written
  obtain ⟨_, _, _, written⟩ := exists_of_bind_eq_ok written
  obtain ⟨_, _, _, written⟩ := exists_of_bind_eq_ok written
  obtain ⟨_, _, questions, written⟩ := exists_of_bind_eq_ok written
  obtain ⟨_, _, answers, written⟩ := exists_of_bind_eq_ok written
  obtain ⟨_, _, authority, written⟩ := exists_of_bind_eq_ok written
  obtain ⟨_, _, additional, _⟩ := exists_of_bind_eq_ok written
  exact ⟨le_of_writeCount questions, le_of_writeCount answers, le_of_writeCount authority,
    le_of_writeCount additional⟩

theorem length_le_length_flatMap
    {α : Type}
    {octets : α → List UInt8}
    (nonempty : ∀ entry, octets entry ≠ [])
    (entries : List α) :
    entries.length ≤ (entries.flatMap octets).length := by
  induction entries with
  | nil => simp
  | cons entry rest hypothesis =>
      have positive := List.length_pos_iff.mpr (nonempty entry)
      rw [List.flatMap_cons, List.length_append, List.length_cons]
      omega

/-- A message of few enough octets has few enough entries, since each takes some. -/
theorem countable_of_length_wire
    {message : Message}
    (short : message.wire.length ≤ maxMessageLength) :
    message.Countable := by
  have questionNonempty (question : Question) : question.wire ≠ [] := by
    simp [Question.wire, Name.wire]
  have recordNonempty (record : Record) : record.wire ≠ [] := by
    simp [Record.wire, Record.headWire, Name.wire]
  have questions := length_le_length_flatMap questionNonempty message.questions
  have records := length_le_length_flatMap recordNonempty message.records
  have counted : message.records.length = message.answers.length +
      message.authority.length + message.additional.length := by
    simp only [Message.records, List.length_append]
  simp only [wire, List.length_append] at short
  constructor <;> omega

/-- A message can be encoded exactly when its octets are few enough, and they are its
encoding. -/
theorem encode_eq_ok_iff {message : Message} {octets : Array UInt8} :
    message.encode = .ok octets ↔
      message.wire.length ≤ maxMessageLength ∧ octets = message.wire.toArray := by
  have sound : Writer.Sound {} := ⟨Nat.zero_le _, Nat.le_refl _⟩
  constructor
  · intro encoded
    cases written : message.write {} with
    | error error next =>
        simp [encode, EStateM.run, written] at encoded
    | ok value next =>
        have writes := message.writes (countable_of_write written)
        simp only [encode, EStateM.run, written, Except.ok.injEq] at encoded
        by_cases short : message.wire.length ≤ maxMessageLength
        · have appended := writes.appends sound (by simpa using short)
          rw [written] at appended
          cases appended
          exact ⟨short, by simp [← encoded, Writer.appended]⟩
        · obtain ⟨error, last, failed, _⟩ := writes.fails sound (by simpa using short)
          rw [written] at failed
          cases failed
  · rintro ⟨short, rfl⟩
    have writes := message.writes (countable_of_length_wire short)
    have appended := writes.appends sound (by simpa using short)
    simp [encode, EStateM.run, appended, Writer.appended]

theorem encode_of_short
    {message : Message}
    (short : message.wire.length ≤ maxMessageLength) :
    message.encode = .ok message.wire.toArray :=
  encode_eq_ok_iff.mpr ⟨short, rfl⟩

theorem encode_of_long
    {message : Message}
    (long : maxMessageLength < message.wire.length) :
    ∃ error, message.encode = .error error := by
  cases encoded : message.encode with
  | ok octets => exact absurd (encode_eq_ok_iff.mp encoded).1 (Nat.not_le.mpr long)
  | error error => exact ⟨error, rfl⟩

end Message
end Dns
end Sinkhole
