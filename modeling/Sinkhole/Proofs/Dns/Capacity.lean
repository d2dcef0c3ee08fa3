import Mathlib.Algebra.GroupWithZero.Nat
import Mathlib.Data.List.DropRight
import Sinkhole.Proofs.Dns.NameSteps
import Sinkhole.Proofs.Dns.NameText

/-!
# Which messages can be encoded

The size of a message is counted from its parts, without writing anything. A message can be
encoded exactly when its size is within the limit, and its encoding then has that size, with the
size of each record's data in front of the data. Of all that writing makes sure of, only two
things can fail: that a section has few enough entries and that a piece fits. The labels of a
name are never at fault, so writing the name as it is stored, label by label, is the same as
writing its text with all checks.
-/

namespace Sinkhole
namespace Dns

/-! ## Sizes -/

/-- The number of octets of the data of a record. -/
def RData.size : RData → Nat
  | .raw octets => octets.length
  | .ipv4 _ => 4
  | .ipv6 _ => 16
  | .name other => wireLength other.labels
  | .soa primary mailbox _ _ _ _ _ => wireLength primary.labels + wireLength mailbox.labels + 20
  | .mx _ host => 2 + wireLength host.labels
  | .srv _ _ _ target => 6 + wireLength target.labels

/-- The number of octets of a question. -/
def Question.size (question : Question) : Nat :=
  wireLength question.qname.labels + 4

/-- The number of octets of a record: its owner, ten octets of fixed length, and its data. -/
def Record.size (record : Record) : Nat :=
  wireLength record.name.labels + 10 + record.rdata.size

namespace Message

/-- The number of octets of a message. -/
def size (message : Message) : Nat :=
  headerLength + (message.questions.map Question.size).sum + (message.records.map Record.size).sum

/-- The place where the length of a record's data is told, for the record of a message that
stands behind some others. -/
def lengthPlace (message : Message) (before : List Record) (record : Record) : Nat :=
  headerLength + (message.questions.map Question.size).sum + (before.map Record.size).sum +
    wireLength record.name.labels + 8

end Message

theorem RData.length_wire (rdata : RData) : rdata.wire.length = rdata.size := by
  cases rdata with
  | raw octets => rfl
  | ipv4 address => simp [wire, size]
  | ipv6 address => simp [wire, size]
  | name other => exact other.length_wire
  | soa primary mailbox serial refresh retry expire minimum =>
      simp [wire, size, Name.length_wire]
      omega
  | mx priority host => simp [wire, size, Name.length_wire]
  | srv priority weight port target =>
      simp [wire, size, Name.length_wire]
      omega

theorem Record.length_wire_eq_size (record : Record) : record.wire.length = record.size := by
  rw [length_wire, RData.length_wire, size]

theorem length_flatMap_question_wire (questions : List Question) :
    (questions.flatMap Question.wire).length = (questions.map Question.size).sum := by
  rw [List.length_flatMap]
  congr 2
  funext question
  exact question.length_wire

theorem length_flatMap_record_wire (records : List Record) :
    (records.flatMap Record.wire).length = (records.map Record.size).sum := by
  rw [List.length_flatMap]
  congr 2
  funext record
  exact record.length_wire_eq_size

theorem Message.length_wire_eq_size (message : Message) : message.wire.length = message.size := by
  rw [length_wire, length_flatMap_question_wire, length_flatMap_record_wire, size]

/-! ## The length of data -/

theorem StandsAt.of_append (before piece after : List UInt8) :
    StandsAt (before ++ (piece ++ after)).toArray before.length piece := by
  rw [StandsAt, List.drop_left]
  exact List.prefix_append piece after

/-- The length of a record's data stands in front of the data. -/
theorem Message.standsAt_length
    {message : Message}
    {before after : List Record}
    {record : Record}
    (split : message.records = before ++ record :: after) :
    StandsAt message.wire.toArray (message.lengthPlace before record)
      (wordOctets (UInt16.ofNat record.rdata.wire.length) ++ record.rdata.wire) := by
  have wire_eq : message.wire =
      (message.headWire ++ message.questions.flatMap Question.wire ++
        before.flatMap Record.wire ++ record.headWire) ++
        ((wordOctets (UInt16.ofNat record.rdata.wire.length) ++ record.rdata.wire) ++
          after.flatMap Record.wire) := by
    simp only [wire, split, List.flatMap_append, List.flatMap_cons, Record.wire, List.append_assoc]
  have place_eq : message.lengthPlace before record =
      (message.headWire ++ message.questions.flatMap Question.wire ++
        before.flatMap Record.wire ++ record.headWire).length := by
    simp only [lengthPlace, headWire, Record.headWire, headerLength, List.length_append,
      length_wordOctets, length_longWordOctets, length_flatMap_question_wire,
      length_flatMap_record_wire, Name.length_wire]
    omega
  rw [wire_eq, place_eq]
  exact .of_append _ _ _

/-! ## Failures -/

/-- The reasons for which a message is not written: a section has too many entries, or a piece
does not fit. -/
inductive WriteError.Expected (limit : Nat) : WriteError → Prop
  | space
      {error : WriteError}
      (full : error.ForSpace limit) :
      Expected limit error
  | count
      {entries : Nat}
      (long : maxMessageLength < entries) :
      Expected limit (.sectionTooLong entries)

/-- Writing leaves the writer within its limit, or fails for one of these reasons. -/
structure FailsOnly (write : Write Unit) : Prop where
  sound
    {writer next : Writer}
    (sound : writer.Sound)
    (written : write writer = .ok () next) :
    next.Sound ∧ next.limit = writer.limit
  expected
    {writer next : Writer}
    {error : WriteError}
    (sound : writer.Sound)
    (failed : write writer = .error error next) :
    error.Expected writer.limit

namespace FailsOnly

theorem of_writes {write : Write Unit} {octets : List UInt8} (writes : Writes write octets) :
    FailsOnly write where
  sound {writer next} sound written := by
    by_cases fits : writer.written.size + octets.length ≤ writer.limit
    · rw [writes.appends sound fits] at written
      cases written
      exact ⟨sound.appended fits, rfl⟩
    · obtain ⟨error, last, failed, _⟩ := writes.fails sound (Nat.not_le.mp fits)
      rw [written] at failed
      cases failed
  expected {writer next error} sound failed := by
    by_cases fits : writer.written.size + octets.length ≤ writer.limit
    · rw [writes.appends sound fits] at failed
      cases failed
    · obtain ⟨_, _, expected, full⟩ := writes.fails sound (Nat.not_le.mp fits)
      rw [failed] at expected
      cases expected
      exact .space full

/-- One piece after the other. -/
theorem bind
    {first second : Write Unit}
    (firstFails : FailsOnly first)
    (secondFails : FailsOnly second) :
    FailsOnly (first >>= fun _ => second) where
  sound sound written := by
    obtain ⟨_, between, firstWritten, secondWritten⟩ := exists_of_bind_eq_ok written
    obtain ⟨soundBetween, limit_eq⟩ := firstFails.sound sound firstWritten
    obtain ⟨soundNext, nextLimit_eq⟩ := secondFails.sound soundBetween secondWritten
    exact ⟨soundNext, nextLimit_eq.trans limit_eq⟩
  expected {writer next error} sound failed := by
    simp only [Bind.bind, EStateM.bind] at failed
    cases firstDone : first writer with
    | ok value between =>
        rw [firstDone] at failed
        obtain ⟨soundBetween, limit_eq⟩ := firstFails.sound sound firstDone
        rw [← limit_eq]
        exact secondFails.expected soundBetween failed
    | error firstError between =>
        rw [firstDone] at failed
        cases failed
        exact firstFails.expected sound firstDone

theorem writeCount (count : Nat) : FailsOnly (Message.writeCount count) := by
  by_cases long : maxMessageLength < count
  · constructor
    · intro writer next _ written
      simp only [Message.writeCount, long, if_true] at written
      cases written
    · intro writer next error _ failed
      simp only [Message.writeCount, long, if_true] at failed
      cases failed
      exact .count long
  · exact of_writes (Message.writes_count (Nat.not_lt.mp long))

end FailsOnly

namespace Message

theorem failsOnly_write (message : Message) : FailsOnly message.write := by
  unfold write
  refine (FailsOnly.of_writes (Writes.word _)).bind ?_
  refine (FailsOnly.of_writes (Writes.word _)).bind ?_
  refine (FailsOnly.writeCount _).bind ?_
  refine (FailsOnly.writeCount _).bind ?_
  refine (FailsOnly.writeCount _).bind ?_
  refine (FailsOnly.writeCount _).bind ?_
  exact .of_writes ((Writes.forM Question.writes _).bind (Writes.forM Record.writes _))

theorem expected_of_encode
    {message : Message}
    {error : WriteError}
    (failed : message.encode = .error error) :
    error.Expected maxMessageLength := by
  have sound : Writer.Sound {} := ⟨Nat.zero_le _, Nat.le_refl _⟩
  unfold encode at failed
  split at failed
  · cases failed
  · next writeFailed =>
      cases failed
      exact message.failsOnly_write.expected sound writeFailed

end Message

/-! ## Names as texts -/

namespace Label

/-- A label passes the checks of the writer. -/
theorem labelFault?_characters (label : Label) (text : String) :
    Writer.labelFault? text label.characters = none := by
  have nonempty : ¬label.characters.isEmpty = true := by simpa using label.characters_ne_nil
  have short : ¬maxLabelLength < label.octets.length := Nat.not_lt.mpr label.length_le
  rw [Writer.labelFault?, if_neg nonempty, label.utf8_characters, if_neg short]

end Label

namespace Writer

theorem withoutDots_of_getLast?_ne
    {characters : List Char}
    (undotted : characters.getLast? ≠ some '.') :
    withoutDots characters = characters := by
  apply List.rdropWhile_eq_self_iff.mpr
  intro nonempty last
  apply undotted
  rw [List.getLast?_eq_some_getLast nonempty, beq_iff_eq.mp last]

/-- The text of a name is written as the name. -/
theorem dotted_text (name : Name) : dotted name.text = Writer.name name := by
  by_cases root : name.labels = []
  · rw [Name.eq_root_of_labels_eq_nil root]
    rfl
  · have bare : withoutDots name.text.toList = name.text.toList :=
      withoutDots_of_getLast?_ne (Name.getLast?_text_ne_dot root)
    have nonempty : ¬name.text.toList.isEmpty = true :=
      mt List.isEmpty_iff.mp (Name.toList_text_ne_nil root)
    have faultless :
        (name.labels.map Label.characters).findSome? (labelFault? name.text) = none := by
      rw [List.findSome?_eq_none_iff, List.forall_mem_map]
      exact fun label _ => label.labelFault?_characters name.text
    have wire_eq :
        ((name.labels.map Label.characters).map fun label =>
          UInt8.ofNat (Text.utf8 label).length :: Text.utf8 label).flatten ++ [0] = name.wire := by
      rw [List.map_map, ← List.flatMap_def, Name.wire]
      congr 2
      funext label
      simp only [Function.comp_apply, label.utf8_characters, Label.wire]
    have short : name.wire.length ≤ maxNameLength := name.length_wire ▸ name.wireLength_le
    have notRoot : ¬name.isRoot = true := by simpa [Name.isRoot] using root
    simp only [dotted, bare, nonempty, Bool.false_eq_true, if_false, Name.splitOn_text root,
      faultless, wire_eq, short, if_true, Writer.name, notRoot]

end Writer

/-! ## Messages that can be encoded -/

namespace Message

/-- A message can be encoded exactly when its sections have few enough entries and its size is
within the limit. The encoding has that size and tells the length of each record's data in front
of it; without one the reason is a section or the space, and no text of a name is refused. -/
theorem encode_iff_fits (message : Message) :
    ((∃ octets, message.encode = .ok octets) ↔
        message.Countable ∧ message.size ≤ maxMessageLength) ∧
      (∀ octets, message.encode = .ok octets →
        octets.size = message.size ∧
          ∀ before record after, message.records = before ++ record :: after →
            ∃ declared : UInt16,
              declared.toNat = record.rdata.size ∧
                StandsAt octets (message.lengthPlace before record)
                  (wordOctets declared ++ record.rdata.wire)) ∧
      (∀ error, message.encode = .error error → error.Expected maxMessageLength) ∧
      ∀ name : Name, Writer.dotted name.text = Writer.name name := by
  refine ⟨⟨?succeeds, ?fits⟩, ?octets, fun error => expected_of_encode, Writer.dotted_text⟩
  case succeeds =>
    rintro ⟨octets, encoded⟩
    have short := (encode_eq_ok_iff.mp encoded).1
    exact ⟨countable_of_length_wire short, message.length_wire_eq_size ▸ short⟩
  case fits =>
    rintro ⟨_, short⟩
    rw [← message.length_wire_eq_size] at short
    exact ⟨message.wire.toArray, encode_of_short short⟩
  case octets =>
    intro octets encoded
    obtain ⟨short, rfl⟩ := encode_eq_ok_iff.mp encoded
    refine ⟨message.length_wire_eq_size, fun before record after split => ?_⟩
    have member : record ∈ message.records := by
      rw [split]
      exact List.mem_append_cons_self
    have dataShort : record.rdata.wire.length ≤ maxMessageLength :=
      (length_rdata_le member).trans short
    refine ⟨UInt16.ofNat record.rdata.wire.length, ?_, standsAt_length split⟩
    rw [toNat_ofNat_of_le dataShort, record.rdata.length_wire]

/-- A record whose data is not laid out as its type says, and one with an octet too much. -/
theorem encode_iff_fits_raw :
    let message (octets : List UInt8) : Message :=
      { answers := [⟨.root, .a, .internet, 60, .raw octets⟩] }
    (∃ octets, (message [7, 8, 9]).encode = .ok octets ∧ octets.size = 26 ∧
        StandsAt octets 21 [0, 3, 7, 8, 9]) ∧
      ∃ error, (message (List.replicate 65513 0)).encode = .error error ∧
        error.Expected maxMessageLength := by
  intro message
  constructor
  · obtain ⟨⟨_, fits⟩, told, _⟩ := encode_iff_fits (message [7, 8, 9])
    obtain ⟨octets, encoded⟩ := fits ⟨⟨by decide, by decide, by decide, by decide⟩, by decide⟩
    obtain ⟨size_eq, lengths⟩ := told octets encoded
    obtain ⟨declared, declared_eq, stands⟩ := lengths [] _ [] rfl
    have three : declared = 3 := UInt16.toNat_inj.mp declared_eq
    subst three
    exact ⟨octets, encoded, size_eq, stands⟩
  · have refused (octets : List UInt8) (long : octets.length = 65513) :
        ∃ error, (message octets).encode = .error error ∧ error.Expected maxMessageLength := by
      obtain ⟨⟨fits, _⟩, _, reasons, _⟩ := encode_iff_fits (message octets)
      cases done : (message octets).encode with
      | ok encoded =>
          have short := (fits ⟨encoded, done⟩).2
          have size_eq : (message octets).size = 23 + octets.length := by
            simp [message, size, records, Record.size, RData.size, headerLength, Name.root]
            omega
          rw [size_eq, long, maxMessageLength] at short
          omega
      | error error => exact ⟨error, rfl, reasons error done⟩
    exact refused (List.replicate 65513 0) List.length_replicate

end Message
end Dns
end Sinkhole
