import Sinkhole.Proofs.Dns.NamePlaces
import Sinkhole.Proofs.Dns.RoundTrip

/-!
# Octets there and back

Reading loses nothing but compression. What is read without a pointer is written as the
octets that it was read from, piece by piece: the letter case of names, the flags down to
the reserved ones, and numbers and data that have no meaning here. So a message is written
as the octets that it was decoded from exactly when they are not too many, nothing stands
behind the message, and no name in it makes use of a pointer.
-/

namespace Sinkhole
namespace Dns

/-! ## Reading goes over what would be written -/

/-- A reader has gone over the given octets. -/
structure Passes (reader next : Reader) (octets : List UInt8) : Prop where
  next_eq : next = { reader with position := reader.position + octets.length }
  stands : StandsAt reader.buffer reader.position octets

theorem exists_eq_two (octets : Vector UInt8 2) : ∃ high low, octets = #v[high, low] := by
  obtain ⟨⟨octets⟩, size_eq⟩ := octets
  obtain ⟨high, low, rfl⟩ := List.length_eq_two.mp size_eq
  exact ⟨high, low, rfl⟩

theorem exists_eq_four (octets : Vector UInt8 4) :
    ∃ first second third fourth, octets = #v[first, second, third, fourth] := by
  obtain ⟨⟨octets⟩, size_eq⟩ := octets
  obtain ⟨first, rest, rfl, rest_eq⟩ := List.length_eq_succ_iff.mp size_eq
  obtain ⟨second, third, fourth, rfl⟩ := List.length_eq_three.mp rest_eq
  exact ⟨first, second, third, fourth, rfl⟩

namespace Passes

variable {reader between next : Reader}

theorem nothing (reader : Reader) : Passes reader reader [] where
  next_eq := rfl
  stands := List.nil_prefix

/-- One piece after the other. -/
theorem append
    {first second : List UInt8}
    (firstPasses : Passes reader between first)
    (secondPasses : Passes between next second) :
    Passes reader next (first ++ second) := by
  obtain ⟨rfl, firstStands⟩ := firstPasses
  obtain ⟨rfl, secondStands⟩ := secondPasses
  refine ⟨?_, firstStands.append secondStands⟩
  rw [List.length_append, Nat.add_assoc]

theorem take
    {piece : Piece}
    {count : Nat}
    {octets : Vector UInt8 count}
    (read : Reader.take piece count reader = .ok octets next) :
    Passes reader next octets.toList := by
  unfold Reader.take at read
  split at read
  · cases read
    refine ⟨?_, .extract _ _ _⟩
    simp only [Vector.length_toList]
  · cases read

theorem octets
    {count : Nat}
    {octets : List UInt8}
    (read : Reader.octets count reader = .ok octets next) :
    Passes reader next octets := by
  obtain ⟨taken, moved, takenRead, rest⟩ := exists_of_bind_eq_ok read
  cases rest
  exact take takenRead

theorem word
    {value : UInt16}
    (read : Reader.word reader = .ok value next) :
    Passes reader next (wordOctets value) := by
  obtain ⟨taken, moved, takenRead, rest⟩ := exists_of_bind_eq_ok read
  cases rest
  obtain ⟨high, low, rfl⟩ := exists_eq_two taken
  rw [wordOctets_word]
  exact take takenRead

theorem longWord
    {value : UInt32}
    (read : Reader.longWord reader = .ok value next) :
    Passes reader next (longWordOctets value) := by
  obtain ⟨taken, moved, takenRead, rest⟩ := exists_of_bind_eq_ok read
  cases rest
  obtain ⟨first, second, third, fourth, rfl⟩ := exists_eq_four taken
  rw [longWordOctets_longWord]
  exact take takenRead

/-- A name without a pointer is where its octets are. -/
theorem name
    {name : Name}
    (read : Reader.name reader = .ok name next)
    (plain : ¬UsesPointer reader.buffer reader.position) :
    Passes reader next name.wire := by
  unfold Reader.name at read
  split at read
  · cases read
  · next labels stop followed =>
      obtain ⟨stands, rfl⟩ := (follows_of_follow followed).standsAt plain
      dsimp only at read
      split at read
      · next whole =>
          cases read
          rw [Name.ofLabels?_eq_some_iff.mp whole] at stands ⊢
          exact ⟨rfl, stands⟩
      · cases read

end Passes

theorem Opcode.code_of_ofCode?
    {code : UInt8}
    {opcode : Opcode}
    (given : ofCode? code = some opcode) :
    opcode.code = code := by
  unfold ofCode? at given
  split at given <;> cases given <;> rfl

namespace Flags

theorem toNat_isSet (bits : UInt16) (weight : Nat) :
    (isSet bits weight).toNat = bits.toNat / weight % 2 := by
  rw [isSet]
  rcases Nat.mod_two_eq_zero_or_one (bits.toNat / weight) with even | odd
  · rw [even]
    rfl
  · rw [odd]
    rfl

/-- The fields of sixteen bits add up to them. -/
theorem sum_fields {bits : Nat} (small : bits < 65536) :
    bits / 32768 % 2 * 32768 + bits / 2048 % 16 * 2048 + bits / 1024 % 2 * 1024 +
      bits / 512 % 2 * 512 + bits / 256 % 2 * 256 + bits / 128 % 2 * 128 + bits / 64 % 2 * 64 +
      bits / 32 % 2 * 32 + bits / 16 % 2 * 16 + bits % 16 = bits := by
  have join (low width : Nat) : bits / low % width * low + bits % low = bits % (low * width) := by
    rw [Nat.mod_mul, Nat.add_comm, Nat.mul_comm]
  simp only [Nat.add_assoc, join]
  exact Nat.mod_eq_of_lt small

/-- Flags that sixteen bits hold are written as these bits, the reserved one among them. -/
theorem bits_of_ofBits
    {bits : UInt16}
    {flags : Flags}
    (read : ofBits bits = .ok flags) :
    flags.bits = bits := by
  unfold ofBits at read
  split at read
  · cases read
  · next opcode given =>
      cases read
      have code_lt : bits.toNat / 2048 % 16 < 256 := by omega
      have rcode_lt : bits.toNat % 16 < 256 := by omega
      rw [← UInt16.toNat_inj, toNat_bits]
      simp only [toNat_isSet, Opcode.code_of_ofCode? given, opcodeBits, UInt8.toNat_ofNat',
        Nat.mod_eq_of_lt code_lt, Nat.mod_eq_of_lt rcode_lt, Nat.mod_mod]
      exact sum_fields bits.toNat_lt

end Flags

theorem Passes.flags
    {reader next : Reader}
    {flags : Flags}
    (read : Reader.flags reader = .ok flags next) :
    Passes reader next (wordOctets flags.bits) := by
  obtain ⟨bits, moved, bitsRead, rest⟩ := exists_of_bind_eq_ok read
  cases given : Flags.ofBits bits with
  | error code =>
      rw [given] at rest
      cases rest
  | ok other =>
      rw [given] at rest
      cases rest
      rw [Flags.bits_of_ofBits given]
      exact .word bitsRead

namespace Reader

variable {α : Type} {entry : Read α} {count : Nat} {reader between next : Reader}

/-- Entries that are read start with one of them. -/
theorem exists_of_entries_succ
    {values : List α}
    (read : entries (count + 1) entry reader = .ok values next) :
    ∃ value between, entry reader = .ok value between ∧
      ∃ others, entries count entry between = .ok others next ∧ values = value :: others := by
  rw [entries, List.replicate_succ, List.mapM_cons] at read
  obtain ⟨value, between, valueRead, rest⟩ := exists_of_bind_eq_ok read
  obtain ⟨others, last, othersRead, rest⟩ := exists_of_bind_eq_ok rest
  cases rest
  exact ⟨value, between, valueRead, others, othersRead, rfl⟩

theorem entries_succ_of
    {value : α}
    {others : List α}
    (valueRead : entry reader = .ok value between)
    (othersRead : entries count entry between = .ok others next) :
    entries (count + 1) entry reader = .ok (value :: others) next := by
  rw [entries] at othersRead
  simp only [entries, List.replicate_succ, List.mapM_cons, Bind.bind, EStateM.bind, valueRead,
    othersRead]
  rfl

end Reader

/-- Entries go over what they would be written as if each of them does, where it starts. -/
theorem Passes.entries
    {α : Type}
    {entry : Read α}
    {wire : α → List UInt8}
    {octets : Array UInt8}
    {count first : Nat}
    {values : List α}
    {next : Reader}
    (read : Reader.entries count entry { buffer := octets, position := first } = .ok values next)
    (passes : ∀ index start value after, index < count →
      Spans (Reader.entries index entry) octets first start →
      entry { buffer := octets, position := start } = .ok value after →
      Passes { buffer := octets, position := start } after (wire value)) :
    Passes { buffer := octets, position := first } next (values.flatMap wire) := by
  -- The entries that are passed before an entry grow at their front, by the first of all.
  induction count generalizing first values with
  | zero =>
      cases read
      exact nothing _
  | succ count hypothesis =>
      obtain ⟨value, moved, valueRead, rest⟩ := Reader.exists_of_entries_succ read
      obtain ⟨others, othersRead, rfl⟩ := rest
      have valuePasses := passes 0 first value moved (Nat.zero_lt_succ count) ⟨[], rfl⟩ valueRead
      obtain rfl := valuePasses.next_eq
      refine valuePasses.append (hypothesis othersRead ?_)
      intro index start other after inside before otherRead
      refine passes (index + 1) start other after (Nat.succ_lt_succ inside) ?_ otherRead
      obtain ⟨skipped, skippedRead⟩ := before
      exact ⟨value :: skipped, Reader.entries_succ_of valueRead skippedRead⟩

/-! ## Messages -/

theorem Question.passes
    {reader next : Reader}
    {question : Question}
    (read : Question.read reader = .ok question next)
    (plain : ¬UsesPointer reader.buffer reader.position) :
    Passes reader next question.wire := by
  obtain ⟨qname, behindName, nameRead, rest⟩ := exists_of_bind_eq_ok read
  obtain ⟨qtype, behindType, typeRead, rest⟩ := exists_of_bind_eq_ok rest
  obtain ⟨qclass, behindClass, classRead, rest⟩ := exists_of_bind_eq_ok rest
  cases rest
  rw [wire, Coded.code_ofCode, Coded.code_ofCode]
  exact ((Passes.name nameRead plain).append (.word typeRead)).append (.word classRead)

namespace RData

/-- Data goes over what it would be written as, whatever its layout. -/
theorem passes_readLayout
    {octets : Array UInt8}
    {start declared : Nat}
    {rtype : RecordType}
    {rdata : RData}
    {next : Reader}
    (read : readLayout rtype declared { buffer := octets, position := start } = .ok rdata next)
    (plain : ∀ place, NameAt octets start rtype.layout place → ¬UsesPointer octets place) :
    Passes { buffer := octets, position := start } next rdata.wire := by
  unfold readLayout at read
  cases laidOut : rtype.layout with
  | ipv4 | ipv6 =>
      rw [laidOut] at read
      dsimp only at read
      split at read
      · obtain ⟨_, _, refused, _⟩ := exists_of_bind_eq_ok read
        cases refused
      · obtain ⟨address, moved, addressRead, rest⟩ := exists_of_bind_eq_ok read
        cases rest
        exact .take addressRead
  | name =>
      rw [laidOut] at read plain
      obtain ⟨other, moved, otherRead, rest⟩ := exists_of_bind_eq_ok read
      cases rest
      exact .name otherRead (plain _ .name)
  | soa =>
      rw [laidOut] at read plain
      obtain ⟨primary, behindPrimary, primaryRead, rest⟩ := exists_of_bind_eq_ok read
      obtain ⟨mailbox, behindMailbox, mailboxRead, rest⟩ := exists_of_bind_eq_ok rest
      obtain ⟨serial, behindSerial, serialRead, rest⟩ := exists_of_bind_eq_ok rest
      obtain ⟨refresh, behindRefresh, refreshRead, rest⟩ := exists_of_bind_eq_ok rest
      obtain ⟨retry, behindRetry, retryRead, rest⟩ := exists_of_bind_eq_ok rest
      obtain ⟨expire, behindExpire, expireRead, rest⟩ := exists_of_bind_eq_ok rest
      obtain ⟨minimum, behindMinimum, minimumRead, rest⟩ := exists_of_bind_eq_ok rest
      cases rest
      have primaryPasses := Passes.name primaryRead (plain _ .primary)
      obtain rfl := primaryPasses.next_eq
      have mailboxPasses := Passes.name mailboxRead (plain _ (.mailbox ⟨primary, primaryRead⟩))
      exact (((((primaryPasses.append mailboxPasses).append (.longWord serialRead)).append
        (.longWord refreshRead)).append (.longWord retryRead)).append
        (.longWord expireRead)).append (.longWord minimumRead)
  | mx =>
      rw [laidOut] at read plain
      obtain ⟨priority, behindPriority, priorityRead, rest⟩ := exists_of_bind_eq_ok read
      obtain ⟨host, behindHost, hostRead, rest⟩ := exists_of_bind_eq_ok rest
      cases rest
      have priorityPasses := Passes.word priorityRead
      obtain rfl := priorityPasses.next_eq
      exact priorityPasses.append (.name hostRead (plain _ .host))
  | srv =>
      rw [laidOut] at read plain
      obtain ⟨priority, behindPriority, priorityRead, rest⟩ := exists_of_bind_eq_ok read
      obtain ⟨weight, behindWeight, weightRead, rest⟩ := exists_of_bind_eq_ok rest
      obtain ⟨port, behindPort, portRead, rest⟩ := exists_of_bind_eq_ok rest
      obtain ⟨target, behindTarget, targetRead, rest⟩ := exists_of_bind_eq_ok rest
      cases rest
      have numbersPass :=
        ((Passes.word priorityRead).append (.word weightRead)).append (.word portRead)
      obtain rfl := numbersPass.next_eq
      exact numbersPass.append (.name targetRead (plain _ .target))
  | raw =>
      rw [laidOut] at read
      obtain ⟨values, moved, valuesRead, rest⟩ := exists_of_bind_eq_ok read
      cases rest
      exact .octets valuesRead

/-- Data takes up its declared length. -/
theorem passes
    {octets : Array UInt8}
    {start declared : Nat}
    {rtype : RecordType}
    {rdata : RData}
    {next : Reader}
    (read : RData.read rtype declared { buffer := octets, position := start } = .ok rdata next)
    (plain : ∀ place, NameAt octets start rtype.layout place → ¬UsesPointer octets place) :
    Passes { buffer := octets, position := start } next rdata.wire ∧
      rdata.wire.length = declared := by
  obtain ⟨position, _, here, rest⟩ := exists_of_bind_eq_ok read
  cases here
  obtain ⟨laidOut, moved, laidOutRead, rest⟩ := exists_of_bind_eq_ok rest
  obtain ⟨stop, _, there, rest⟩ := exists_of_bind_eq_ok rest
  cases there
  dsimp only at rest
  split at rest
  · obtain ⟨_, _, refused, _⟩ := exists_of_bind_eq_ok rest
    cases refused
  · next whole =>
      cases rest
      have passes := passes_readLayout laidOutRead plain
      refine ⟨passes, ?_⟩
      obtain ⟨rfl, _⟩ := passes
      simpa using whole

end RData

theorem Record.passes
    {octets : Array UInt8}
    {start : Nat}
    {record : Record}
    {next : Reader}
    (read : Record.read { buffer := octets, position := start } = .ok record next)
    (plain : ∀ place, NameAt octets start place → ¬UsesPointer octets place) :
    Passes { buffer := octets, position := start } next record.wire := by
  obtain ⟨name, behindName, nameRead, rest⟩ := exists_of_bind_eq_ok read
  obtain ⟨rtype, behindType, typeRead, rest⟩ := exists_of_bind_eq_ok rest
  obtain ⟨rclass, behindClass, classRead, rest⟩ := exists_of_bind_eq_ok rest
  obtain ⟨ttl, behindTtl, ttlRead, rest⟩ := exists_of_bind_eq_ok rest
  obtain ⟨declared, behindLength, lengthRead, rest⟩ := exists_of_bind_eq_ok rest
  obtain ⟨rdata, behindData, dataRead, rest⟩ := exists_of_bind_eq_ok rest
  cases rest
  have namePasses := Passes.name nameRead (plain _ .owner)
  have typePasses := Passes.word typeRead
  have headPasses :=
    ((namePasses.append typePasses).append (.word classRead)).append (.longWord ttlRead)
  have lengthPasses := headPasses.append (.word lengthRead)
  obtain rfl := namePasses.next_eq
  obtain rfl := lengthPasses.next_eq
  have behind_eq : start + name.wire.length + 10 =
      start + (name.wire ++ wordOctets rtype ++ wordOctets rclass ++ longWordOctets ttl ++
        wordOctets declared).length := by
    simp only [List.length_append, length_wordOctets, length_longWordOctets]
    omega
  obtain ⟨dataPasses, length_eq⟩ := RData.passes dataRead fun place inside =>
    plain place (.data ⟨name, nameRead⟩ typePasses.stands (behind_eq ▸ inside))
  have declared_eq : UInt16.ofNat rdata.wire.length = declared := by
    rw [length_eq, UInt16.ofNat_toNat]
  rw [Record.wire, headWire, declared_eq, Coded.code_ofCode, Coded.code_ofCode]
  exact lengthPasses.append dataPasses

namespace Reader

variable {α : Type} {entry : Read α} {reader between next : Reader}

theorem length_of_entries
    {count : Nat}
    {values : List α}
    (read : entries count entry reader = .ok values next) :
    values.length = count := by
  induction count generalizing reader values with
  | zero =>
      cases read
      rfl
  | succ count hypothesis =>
      obtain ⟨value, moved, -, others, othersRead, rfl⟩ := exists_of_entries_succ read
      rw [List.length_cons, hypothesis othersRead]

/-- Entries that are read in two runs are read in one. -/
theorem entries_append
    {firstCount secondCount : Nat}
    {first second : List α}
    (firstRead : entries firstCount entry reader = .ok first between)
    (secondRead : entries secondCount entry between = .ok second next) :
    entries (firstCount + secondCount) entry reader = .ok (first ++ second) next := by
  induction firstCount generalizing reader first with
  | zero =>
      cases firstRead
      rwa [Nat.zero_add]
  | succ count hypothesis =>
      obtain ⟨value, moved, valueRead, others, othersRead, rfl⟩ :=
        exists_of_entries_succ firstRead
      rw [Nat.succ_add]
      exact entries_succ_of valueRead (hypothesis othersRead)

end Reader

namespace Message

/-- A message that is read has its fixed part, then its questions, then its records. -/
theorem exists_of_read
    {octets : Array UInt8}
    {message : Message}
    {next : Reader}
    (read : Message.read { buffer := octets } = .ok message next) :
    ∃ between,
      Passes { buffer := octets } { buffer := octets, position := headerLength }
        message.headWire ∧
      Reader.entries message.questions.length Question.read
        { buffer := octets, position := headerLength } = .ok message.questions between ∧
      Reader.entries message.records.length Record.read between = .ok message.records next := by
  obtain ⟨id, _, idRead, rest⟩ := exists_of_bind_eq_ok read
  obtain ⟨flags, _, flagsRead, rest⟩ := exists_of_bind_eq_ok rest
  obtain ⟨questionCount, _, questionCountRead, rest⟩ := exists_of_bind_eq_ok rest
  obtain ⟨answerCount, _, answerCountRead, rest⟩ := exists_of_bind_eq_ok rest
  obtain ⟨authorityCount, _, authorityCountRead, rest⟩ := exists_of_bind_eq_ok rest
  obtain ⟨additionalCount, _, additionalCountRead, rest⟩ := exists_of_bind_eq_ok rest
  obtain ⟨questions, between, questionsRead, rest⟩ := exists_of_bind_eq_ok rest
  obtain ⟨answers, _, answersRead, rest⟩ := exists_of_bind_eq_ok rest
  obtain ⟨authority, _, authorityRead, rest⟩ := exists_of_bind_eq_ok rest
  obtain ⟨additional, _, additionalRead, rest⟩ := exists_of_bind_eq_ok rest
  cases rest
  have headPasses :=
    (((((Passes.word idRead).append (.flags flagsRead)).append (.word questionCountRead)).append
      (.word answerCountRead)).append (.word authorityCountRead)).append
      (.word additionalCountRead)
  have recordsRead :=
    Reader.entries_append (Reader.entries_append answersRead authorityRead) additionalRead
  obtain rfl := headPasses.next_eq
  have questions_eq := Reader.length_of_entries questionsRead
  have answers_eq := Reader.length_of_entries answersRead
  have authority_eq := Reader.length_of_entries authorityRead
  have additional_eq := Reader.length_of_entries additionalRead
  refine ⟨between, ?_, ?_, ?_⟩
  · simp only [headWire, questions_eq, answers_eq, authority_eq, additional_eq,
      UInt16.ofNat_toNat]
    exact headPasses
  · rw [questions_eq]
    exact questionsRead
  · simpa only [records, List.length_append, answers_eq, authority_eq, additional_eq]
      using recordsRead

/-- A message that is read without a pointer goes over what it would be written as. -/
theorem passes
    {octets : Array UInt8}
    {message : Message}
    {next : Reader}
    (read : Message.read { buffer := octets } = .ok message next)
    (plain : ∀ place, NameAt octets message place → ¬UsesPointer octets place) :
    Passes { buffer := octets } next message.wire := by
  obtain ⟨between, headPasses, questionsRead, recordsRead⟩ := exists_of_read read
  have questionsPass := Passes.entries questionsRead
    fun index start question after inside before questionRead =>
      Question.passes questionRead (plain start (.question inside before))
  obtain rfl := questionsPass.next_eq
  have recordsPass := Passes.entries recordsRead
    fun index start record after inside before recordRead =>
      Record.passes recordRead fun place named =>
        plain place (.record inside ⟨_, questionsRead⟩ before named)
  exact (headPasses.append questionsPass).append recordsPass

end Message

/-! ## What is written has no pointers -/

/-- A piece ends behind its octets. -/
theorem Reads.stop_eq
    {α : Type}
    {read : Read α}
    {piece before after : List UInt8}
    {value : α}
    {stop : Nat}
    (reads : Reads read piece value)
    (spans : Spans read (before ++ (piece ++ after)).toArray before.length stop) :
    stop = (before ++ piece).length := by
  obtain ⟨other, otherRead⟩ := spans
  have pieceRead := reads before after
  rw [Reader.between, otherRead] at pieceRead
  injection pieceRead with _ reader_eq
  injection reader_eq

/-- An entry starts where its octets do. -/
theorem exists_of_spans_entries
    {α : Type}
    {entry : Read α}
    {wire : α → List UInt8}
    {values : List α}
    {before after : List UInt8}
    {index start : Nat}
    (reads : ∀ value ∈ values, Reads entry (wire value) value)
    (inside : index < values.length)
    (spans : Spans (Reader.entries index entry)
      (before ++ (values.flatMap wire ++ after)).toArray before.length start) :
    ∃ value ∈ values, ∃ ahead behind,
      before ++ (values.flatMap wire ++ after) = ahead ++ (wire value ++ behind) ∧
        start = ahead.length := by
  have split : values.flatMap wire =
      (values.take index).flatMap wire ++
        (wire values[index] ++ (values.drop (index + 1)).flatMap wire) := by
    rw [← List.flatMap_cons, List.getElem_cons_drop, ← List.flatMap_append, List.take_append_drop]
  have skipped := Reads.entries (values.take index) fun value member =>
    reads value (List.mem_of_mem_take member)
  rw [List.length_take_of_le inside.le] at skipped
  rw [split, List.append_assoc] at spans
  refine ⟨values[index], List.getElem_mem inside, before ++ (values.take index).flatMap wire,
    (values.drop (index + 1)).flatMap wire ++ after, ?_, skipped.stop_eq spans⟩
  rw [split]
  simp only [List.append_assoc]

/-- No name in data that is written makes use of a pointer. -/
theorem RData.not_usesPointer_wire
    {rdata : RData}
    {before after : List UInt8}
    {place : Nat}
    (named : NameAt (before ++ (rdata.wire ++ after)).toArray before.length rdata.layout place) :
    ¬UsesPointer (before ++ (rdata.wire ++ after)).toArray place := by
  cases rdata with
  | raw octets => cases named
  | ipv4 address => cases named
  | ipv6 address => cases named
  | name other =>
      cases named
      exact Dns.not_usesPointer_wire other before after
  | soa primary mailbox serial refresh retry expire minimum =>
      simp only [wire, List.append_assoc] at named ⊢
      cases named with
      | primary => exact Dns.not_usesPointer_wire primary before _
      | mailbox spans =>
          rw [(Reads.name primary).stop_eq spans, ← List.append_assoc]
          exact Dns.not_usesPointer_wire mailbox (before ++ primary.wire) _
  | mx priority host =>
      cases named
      rw [wire, List.append_assoc, ← List.append_assoc before]
      have plain := Dns.not_usesPointer_wire host (before ++ wordOctets priority) after
      rwa [List.length_append, length_wordOctets] at plain
  | srv priority weight port target =>
      cases named
      rw [wire, List.append_assoc, ← List.append_assoc before]
      have plain := Dns.not_usesPointer_wire target
        (before ++ (wordOctets priority ++ wordOctets weight ++ wordOctets port)) after
      simpa only [List.length_append, length_wordOctets] using plain

theorem wordOctets_inj {first second : UInt16} :
    wordOctets first = wordOctets second ↔ first = second := by
  refine ⟨fun equal => ?_, fun equal => equal ▸ rfl⟩
  simp only [wordOctets, List.cons.injEq, and_true] at equal
  rw [← word_wordOctets first, equal.1, equal.2, word_wordOctets]

/-- No name in a record that is written makes use of a pointer. -/
theorem Record.not_usesPointer_wire
    {record : Record}
    (wellFormed : record.WellFormed)
    {before after : List UInt8}
    {place : Nat}
    (named : NameAt (before ++ (record.wire ++ after)).toArray before.length place) :
    ¬UsesPointer (before ++ (record.wire ++ after)).toArray place := by
  cases named with
  | owner =>
      simp only [wire, headWire, List.append_assoc]
      exact Dns.not_usesPointer_wire record.name before _
  | @data stop _ number owner typed inside =>
      have stop_eq : stop = (before ++ record.name.wire).length := by
        simp only [wire, headWire, List.append_assoc] at owner
        exact (Reads.name record.name).stop_eq owner
      -- The type that places the name is known by its octets alone, which are those written.
      have rtype_eq : Coded.ofCode number = record.rtype := by
        have stands : StandsAt (before ++ (record.wire ++ after)).toArray stop
            (wordOctets record.rtype.code) := by
          simp [StandsAt, stop_eq, wire, headWire]
        rw [wordOctets_inj.mp (typed.unique stands rfl)]
        exact Coded.ofCode_code_iff.mpr wellFormed.rtype_proper
      have split : before ++ (record.wire ++ after) =
          before ++ record.headWire ++ wordOctets (UInt16.ofNat record.rdata.wire.length) ++
            (record.rdata.wire ++ after) := by
        simp only [wire, List.append_assoc]
      have data_eq : stop + 10 =
          (before ++ record.headWire ++
            wordOctets (UInt16.ofNat record.rdata.wire.length)).length := by
        simp only [stop_eq, headWire, List.length_append, length_wordOctets,
          length_longWordOctets]
        omega
      rw [rtype_eq, ← wellFormed.layout_eq, data_eq, split] at inside
      rw [split]
      exact RData.not_usesPointer_wire inside

namespace Message

/-- The position behind the message that the given octets start with. -/
def stop? (octets : Array UInt8) : Option Nat :=
  match Message.read.run { buffer := octets } with
  | .ok _ reader => some reader.position
  | .error _ _ => none

/-- No name in a message that is written makes use of a pointer. -/
theorem not_usesPointer_wire
    {message : Message}
    (wellFormed : message.WellFormed)
    (short : message.wire.length ≤ maxMessageLength)
    {place : Nat}
    (named : NameAt message.wire.toArray message place) :
    ¬UsesPointer message.wire.toArray place := by
  have questionsRead : ∀ question ∈ message.questions,
      Reads Question.read question.wire question :=
    fun question member => Question.reads (wellFormed.questions question member)
  cases named with
  | question inside before =>
      have split : message.wire =
          message.headWire ++ (message.questions.flatMap Question.wire ++
            message.records.flatMap Record.wire) := by
        rw [wire, List.append_assoc]
      rw [split] at before ⊢
      obtain ⟨question, _, ahead, behind, split, rfl⟩ :=
        exists_of_spans_entries questionsRead inside before
      rw [split, Question.wire, List.append_assoc, List.append_assoc]
      exact Dns.not_usesPointer_wire question.qname ahead _
  | record inside questions before named =>
      have split : message.wire =
          (message.headWire ++ message.questions.flatMap Question.wire) ++
            (message.records.flatMap Record.wire ++ []) := by
        rw [wire, List.append_nil]
      rw [wire, List.append_assoc] at questions
      obtain rfl := (Reads.entries message.questions questionsRead).stop_eq questions
      rw [split] at before named ⊢
      obtain ⟨record, member, ahead, behind, split, rfl⟩ :=
        exists_of_spans_entries (fun record => reads_record wellFormed short) inside before
      rw [split] at named ⊢
      exact Record.not_usesPointer_wire (wellFormed.records record member) named

/-- What is decoded was read, up to some position. -/
theorem exists_of_decode
    {octets : Array UInt8}
    {message : Message}
    (decoded : decode octets = .ok message) :
    ∃ next, read { buffer := octets } = .ok message next ∧
      stop? octets = some next.position := by
  unfold decode at decoded
  split at decoded
  · next other next otherRead =>
      cases decoded
      exact ⟨next, otherRead, by rw [stop?, otherRead]⟩
  · cases decoded

/-- A message is written as the very octets that it was decoded from exactly when there are
not too many of them, reading the message took all of them, and at none of the places where
the message has a name does the name make use of a pointer. -/
theorem encode_eq_source_iff
    {octets : Array UInt8}
    {message : Message}
    (decoded : decode octets = .ok message) :
    message.encode = .ok octets ↔
      octets.size ≤ maxMessageLength ∧ stop? octets = some octets.size ∧
        ∀ place, NameAt octets message place → ¬UsesPointer octets place := by
  obtain ⟨next, messageRead, stop_eq⟩ := exists_of_decode decoded
  have wellFormed := wellFormed_of_decode decoded
  rw [stop_eq, Option.some.injEq, encode_eq_ok_iff]
  constructor
  · rintro ⟨short, rfl⟩
    have whole := message.reads wellFormed short [] []
    simp only [Reader.between, List.nil_append, List.append_nil, List.length_nil,
      messageRead] at whole
    injection whole with _ next_eq
    refine ⟨short, ?_, fun place => not_usesPointer_wire wellFormed short⟩
    rw [next_eq, List.size_toArray]
  · rintro ⟨short, whole, plain⟩
    obtain ⟨rfl, stands⟩ := passes messageRead plain
    simp only [Nat.zero_add] at whole
    have wire_eq : message.wire = octets.toList :=
      List.IsPrefix.eq_of_length stands whole
    refine ⟨whole ▸ short, ?_⟩
    rw [wire_eq]

/-- A question about `wW` with a type and a class that have no mnemonic, under a flag that is
reserved, and an option record behind it. -/
theorem encode_eq_source_iff_mixed :
    let mixedLabel : Label :=
      { octets := [119, 87]
        nonempty := by decide
        length_le := by decide
        legal := List.forall_mem_cons.mpr ⟨rfl, List.forall_mem_singleton.mpr rfl⟩ }
    let message : Message :=
      { id := 4660
        flags := { response := true, recursionDesired := true, reserved := true }
        questions := [⟨⟨[mixedLabel], by decide⟩, .unknown 65280, .unknown 9⟩]
        additional := [⟨.root, .named .opt, .unknown 1232, 32768, .raw [0, 10, 0, 1, 7]⟩] }
    let octets : Array UInt8 :=
      #[18, 52, 129, 64, 0, 1, 0, 0, 0, 0, 0, 1,
        2, 119, 87, 0, 255, 0, 0, 9,
        0, 0, 41, 4, 208, 0, 0, 128, 0, 0, 5, 0, 10, 0, 1, 7]
    decode octets = .ok message ∧ message.encode = .ok octets ∧
      stop? octets = some octets.size ∧
        ∀ place, NameAt octets message place → ¬UsesPointer octets place := by
  intro mixedLabel message octets
  have encoded : message.encode = .ok octets := encode_eq_ok_iff.mpr ⟨by decide, by decide⟩
  have decoded : decode octets = .ok message :=
    decode_encode ⟨by decide, by decide, by decide⟩ encoded
  obtain ⟨_, whole, plain⟩ := (encode_eq_source_iff decoded).mp encoded
  exact ⟨decoded, encoded, whole, plain⟩

end Message
end Dns
end Sinkhole
