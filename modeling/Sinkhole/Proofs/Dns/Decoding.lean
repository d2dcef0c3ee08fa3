import Sinkhole.Proofs.Dns.Encoding

/-!
# Reading what was written

A piece is read from its octets wherever they stand in a message, and the reader is then
behind them. The exception is a name that ends in a pointer, but no such name is written.
-/

namespace Sinkhole
namespace Dns

/-- A reader between the octets that it has read and those to come. -/
def Reader.between (before after : List UInt8) : Reader :=
  { buffer := (before ++ after).toArray, position := before.length }

/-- A piece is read from the given octets, whatever stands before and behind them. -/
def Reads {α : Type} (read : Read α) (octets : List UInt8) (value : α) : Prop :=
  ∀ before after,
    read (Reader.between before (octets ++ after)) =
      .ok value (Reader.between (before ++ octets) after)

namespace Reads

theorem nothing {α : Type} (value : α) : Reads (pure value) [] value := by
  intro before after
  simp [pure, EStateM.pure]

/-- One piece after the other. -/
theorem bind
    {α β : Type}
    {first : Read α}
    {second : α → Read β}
    {firstOctets secondOctets : List UInt8}
    {value : α}
    {result : β}
    (firstReads : Reads first firstOctets value)
    (secondReads : Reads (second value) secondOctets result) :
    Reads (first >>= second) (firstOctets ++ secondOctets) result := by
  intro before after
  have next := secondReads (before ++ firstOctets) after
  rw [List.append_assoc] at next
  simp only [Bind.bind, EStateM.bind, List.append_assoc, firstReads before _, next]

/-- A piece and what is made of it. -/
theorem map
    {α β : Type}
    {first : Read α}
    {octets : List UInt8}
    {value : α}
    (reads : Reads first octets value)
    (make : α → β) :
    Reads (first >>= fun value => pure (make value)) octets (make value) := by
  rw [← List.append_nil octets]
  exact reads.bind (nothing (make value))

theorem take (piece : Piece) {count : Nat} (octets : Vector UInt8 count) :
    Reads (Reader.take piece count) octets.toList octets := by
  intro before after
  have enough :
      count ≤ (Reader.between before (octets.toList ++ after)).remaining := by
    simp [Reader.between, Reader.remaining]
  rw [Reader.take, dif_pos enough]
  simp [Reader.between, Vector.ext_iff]

theorem octets (values : List UInt8) : Reads (Reader.octets values.length) values values := by
  have taken := take .octets ⟨values.toArray, List.size_toArray⟩
  exact taken.map Vector.toList

theorem word (value : UInt16) : Reads Reader.word (wordOctets value) value := by
  have taken := take .word #v[UInt8.ofNat (value.toNat / 256), UInt8.ofNat value.toNat]
  have read : Reads Reader.word (wordOctets value)
      (Dns.word (UInt8.ofNat (value.toNat / 256)) (UInt8.ofNat value.toNat)) :=
    taken.map fun octets => Dns.word octets[0] octets[1]
  rwa [word_wordOctets] at read

theorem longWord (value : UInt32) : Reads Reader.longWord (longWordOctets value) value := by
  have taken := take .longWord
    #v[UInt8.ofNat (value.toNat / 16777216), UInt8.ofNat (value.toNat / 65536),
      UInt8.ofNat (value.toNat / 256), UInt8.ofNat value.toNat]
  have read : Reads Reader.longWord (longWordOctets value)
      (Dns.longWord (UInt8.ofNat (value.toNat / 16777216)) (UInt8.ofNat (value.toNat / 65536))
        (UInt8.ofNat (value.toNat / 256)) (UInt8.ofNat value.toNat)) :=
    taken.map fun octets => Dns.longWord octets[0] octets[1] octets[2] octets[3]
  rwa [longWord_longWordOctets] at read

/-- Entries of the same kind, one after the other. -/
theorem entries
    {α : Type}
    {read : Read α}
    {octets : α → List UInt8}
    (values : List α)
    (reads : ∀ value ∈ values, Reads read (octets value) value) :
    Reads (Reader.entries values.length read) (values.flatMap octets) values := by
  unfold Reader.entries
  induction values with
  | nil => exact nothing []
  | cons value rest hypothesis =>
      rw [List.length_cons, List.replicate_succ, List.mapM_cons, List.flatMap_cons]
      have others := hypothesis fun value member => reads value (List.mem_cons_of_mem _ member)
      exact (reads value List.mem_cons_self).bind (others.map (value :: ·))

end Reads

/-! ## Names -/

namespace Label

/-- The octet in front of a label is its length. -/
theorem toNat_lead (label : Label) :
    (UInt8.ofNat label.octets.length).toNat = label.octets.length := by
  have short := label.length_le
  simp only [maxLabelLength] at short
  rw [UInt8.toNat_ofNat']
  omega

/-- The octet in front of a label does not end a name. -/
theorem lead_ne_zero (label : Label) : UInt8.ofNat label.octets.length ≠ 0 := by
  intro zero
  have toNat_eq := label.toNat_lead
  rw [zero, UInt8.toNat_zero] at toNat_eq
  exact label.nonempty (List.length_eq_zero_iff.mp toNat_eq.symm)

/-- The octet in front of a label is no part of a pointer. -/
theorem lead_lt (label : Label) : UInt8.ofNat label.octets.length < 0x40 := by
  rw [UInt8.lt_iff_toNat_lt, toNat_lead]
  exact Nat.lt_succ_of_le label.length_le

end Label

/-- A label that stands at the position is taken, and the name goes on behind it. -/
theorem follow_label
    {label : Label}
    {labels : List Label}
    {length pointers next : Nat}
    {before after : List UInt8}
    (fits : length + label.octets.length + 1 ≤ maxNameLength)
    (followed :
      Reader.follow (before ++ label.wire ++ after).toArray (before ++ label.wire).length
        pointers (length + label.octets.length + 1) = .ok (labels, next)) :
    Reader.follow (before ++ (label.wire ++ after)).toArray before.length pointers length =
      .ok (label :: labels, next) := by
  have inside : before.length + 1 + label.octets.length ≤
      before.length + (label.octets.length + after.length + 1) := by
    omega
  have position_eq : before.length + (label.octets.length + 1) =
      before.length + 1 + label.octets.length := by
    omega
  have taken : Label.ofOctets label.octets = .ok label := Label.ofOctets_eq_ok_iff.mpr rfl
  simp only [Label.wire, List.append_assoc, List.cons_append, List.length_append,
    List.length_cons, position_eq] at followed
  rw [Reader.follow]
  simp [Label.wire, label.toNat_lead, label.lead_ne_zero, label.lead_lt, inside, taken, fits,
    followed]

/-- The labels of a name are found where its octets stand. -/
theorem follow_wire
    {labels : List Label}
    {length : Nat}
    (fits : length + wireLength labels ≤ maxNameLength)
    (pointers : Nat)
    (before after : List UInt8) :
    Reader.follow (before ++ (labels.flatMap Label.wire ++ ([0] ++ after))).toArray
        before.length pointers length =
      .ok (labels, before.length + (labels.flatMap Label.wire ++ [0]).length) := by
  induction labels generalizing before length with
  | nil =>
      rw [Reader.follow]
      simp
  | cons label rest hypothesis =>
      rw [wireLength_cons] at fits
      have restFits : length + label.octets.length + 1 + wireLength rest ≤ maxNameLength := by
        omega
      have next := hypothesis restFits (before ++ label.wire)
      rw [List.flatMap_cons, List.append_assoc, follow_label (by omega) next]
      simp only [List.length_append, Nat.add_assoc]

theorem Reads.name (name : Name) : Reads Reader.name name.wire name := by
  intro before after
  have followed := follow_wire (by rw [Nat.zero_add]; exact name.wireLength_le) maxPointers
    before after
  rw [← List.append_assoc (name.labels.flatMap Label.wire), ← Name.wire] at followed
  have whole : Name.ofLabels? name.labels = some name := Name.ofLabels?_eq_some_iff.mpr rfl
  simp [Reader.name, Reader.between, followed, whole]

/-! ## Flags -/

namespace Flags

theorem isSet_of_eq
    {bits : UInt16}
    {weight : Nat}
    {flag : Bool}
    (bit : bits.toNat / weight % 2 = flag.toNat) :
    isSet bits weight = flag := by
  rw [isSet, bit]
  cases flag <;> rfl

/-- Each flag takes one bit, and the operation code at most three. -/
theorem fields_le (flags : Flags) :
    flags.response.toNat ≤ 1 ∧ flags.opcode.code.toNat ≤ 6 ∧
      flags.authoritative.toNat ≤ 1 ∧ flags.truncated.toNat ≤ 1 ∧
      flags.recursionDesired.toNat ≤ 1 ∧ flags.recursionAvailable.toNat ≤ 1 ∧
      flags.reserved.toNat ≤ 1 ∧ flags.authenticated.toNat ≤ 1 ∧
      flags.checkingDisabled.toNat ≤ 1 := by
  have opcode_le : flags.opcode.code.toNat ≤ 6 := by cases flags.opcode <;> decide
  exact ⟨Bool.toNat_le _, opcode_le, Bool.toNat_le _, Bool.toNat_le _, Bool.toNat_le _,
    Bool.toNat_le _, Bool.toNat_le _, Bool.toNat_le _, Bool.toNat_le _⟩

/-- The sum that makes up the bits of flags does not overflow. -/
theorem toNat_bits (flags : Flags) :
    flags.bits.toNat =
      flags.response.toNat * 32768 + flags.opcode.code.toNat * 2048 +
        flags.authoritative.toNat * 1024 + flags.truncated.toNat * 512 +
        flags.recursionDesired.toNat * 256 + flags.recursionAvailable.toNat * 128 +
        flags.reserved.toNat * 64 + flags.authenticated.toNat * 32 +
        flags.checkingDisabled.toNat * 16 + flags.rcode.toNat % 16 := by
  have fields_le := flags.fields_le
  rw [bits, UInt16.toNat_ofNat']
  exact Nat.mod_eq_of_lt (by omega)

/-- The bits of flags give the flags back, if the response code has only four bits. -/
theorem ofBits_bits
    {flags : Flags}
    (small : flags.rcode < 16) :
    ofBits flags.bits = .ok flags := by
  have value := flags.toNat_bits
  have fields_le := flags.fields_le
  have rcode_lt : flags.rcode.toNat < 16 := UInt8.lt_iff_toNat_lt.mp small
  have opcode_eq : opcodeBits flags.bits = flags.opcode.code := by
    rw [← UInt8.toNat_inj, opcodeBits, UInt8.toNat_ofNat']
    omega
  have rcode_eq : UInt8.ofNat (flags.bits.toNat % 16) = flags.rcode := by
    rw [← UInt8.toNat_inj, UInt8.toNat_ofNat']
    omega
  have response_eq : isSet flags.bits 32768 = flags.response := isSet_of_eq (by omega)
  have authoritative_eq : isSet flags.bits 1024 = flags.authoritative :=
    isSet_of_eq (by omega)
  have truncated_eq : isSet flags.bits 512 = flags.truncated := isSet_of_eq (by omega)
  have recursionDesired_eq : isSet flags.bits 256 = flags.recursionDesired :=
    isSet_of_eq (by omega)
  have recursionAvailable_eq : isSet flags.bits 128 = flags.recursionAvailable :=
    isSet_of_eq (by omega)
  have reserved_eq : isSet flags.bits 64 = flags.reserved := isSet_of_eq (by omega)
  have authenticated_eq : isSet flags.bits 32 = flags.authenticated :=
    isSet_of_eq (by omega)
  have checkingDisabled_eq : isSet flags.bits 16 = flags.checkingDisabled :=
    isSet_of_eq (by omega)
  simp only [ofBits, opcode_eq, Opcode.ofCode?_code, rcode_eq, response_eq, authoritative_eq,
    truncated_eq, recursionDesired_eq, recursionAvailable_eq, reserved_eq, authenticated_eq,
    checkingDisabled_eq]

end Flags

theorem Reads.flags {flags : Flags} (small : flags.rcode < 16) :
    Reads Reader.flags (wordOctets flags.bits) flags := by
  rw [← List.append_nil (wordOctets flags.bits)]
  refine (Reads.word flags.bits).bind ?_
  rw [Flags.ofBits_bits small]
  exact Reads.nothing flags

/-! ## Messages -/

/-- A number that is written in two octets is not cut short. -/
theorem toNat_ofNat_of_le {count : Nat} (small : count ≤ maxMessageLength) :
    (UInt16.ofNat count).toNat = count := by
  simp only [maxMessageLength] at small
  rw [UInt16.toNat_ofNat']
  omega

/-- A question that could have been read: its type and its class are kept by their mnemonics if
they have any. -/
structure Question.WellFormed (question : Question) : Prop where
  qtype_proper : question.qtype.Proper
  qclass_proper : question.qclass.Proper

/-- A record that could have been read: its type and its class are kept by their mnemonics if they
have any, and its data is laid out as the type says. -/
structure Record.WellFormed (record : Record) : Prop where
  rtype_proper : record.rtype.Proper
  rclass_proper : record.rclass.Proper
  layout_eq : record.rdata.layout = record.rtype.layout

instance (question : Question) : Decidable question.WellFormed :=
  decidable_of_iff (question.qtype.Proper ∧ question.qclass.Proper)
    ⟨fun ⟨qtype, qclass⟩ => ⟨qtype, qclass⟩, fun wellFormed => ⟨wellFormed.1, wellFormed.2⟩⟩

instance (record : Record) : Decidable record.WellFormed :=
  decidable_of_iff
    (record.rtype.Proper ∧ record.rclass.Proper ∧ record.rdata.layout = record.rtype.layout)
    ⟨fun ⟨rtype, rclass, layout⟩ => ⟨rtype, rclass, layout⟩,
      fun wellFormed => ⟨wellFormed.1, wellFormed.2, wellFormed.3⟩⟩

theorem Question.reads {question : Question} (wellFormed : question.WellFormed) :
    Reads read question.wire question := by
  rw [wire, List.append_assoc, ← List.append_nil (wordOctets question.qclass.code)]
  refine (Reads.name _).bind ?_
  refine (Reads.word _).bind ?_
  refine (Reads.word _).bind ?_
  rw [Coded.ofCode_code_iff.mpr wellFormed.qtype_proper,
    Coded.ofCode_code_iff.mpr wellFormed.qclass_proper]
  exact Reads.nothing question

namespace RData

theorem readsLayout
    {rtype : RecordType}
    {rdata : RData}
    (agrees : rdata.layout = rtype.layout) :
    Reads (readLayout rtype rdata.wire.length) rdata.wire rdata := by
  unfold readLayout
  rw [← agrees]
  cases rdata with
  | raw octets => exact (Reads.octets octets).map RData.raw
  | ipv4 address =>
      have declared : (ipv4 address).wire.length = 4 := by simp [wire]
      simp only [layout, declared]
      exact (Reads.take .octets address.octets).map fun octets => RData.ipv4 ⟨octets⟩
  | ipv6 address =>
      have declared : (ipv6 address).wire.length = 16 := by simp [wire]
      simp only [layout, declared]
      exact (Reads.take .octets address.octets).map fun octets => RData.ipv6 ⟨octets⟩
  | name other => exact (Reads.name other).map RData.name
  | soa primary mailbox serial refresh retry expire minimum =>
      simp only [wire, List.append_assoc]
      refine (Reads.name primary).bind ?_
      refine (Reads.name mailbox).bind ?_
      refine (Reads.longWord serial).bind ?_
      refine (Reads.longWord refresh).bind ?_
      refine (Reads.longWord retry).bind ?_
      exact (Reads.longWord expire).bind ((Reads.longWord minimum).map _)
  | mx priority host =>
      exact (Reads.word priority).bind ((Reads.name host).map _)
  | srv priority weight port target =>
      simp only [wire, List.append_assoc]
      refine (Reads.word priority).bind ?_
      refine (Reads.word weight).bind ?_
      exact (Reads.word port).bind ((Reads.name target).map _)

/-- Data is read back when its type has the layout of the data. -/
theorem reads
    {rtype : RecordType}
    {rdata : RData}
    (agrees : rdata.layout = rtype.layout) :
    Reads (read rtype rdata.wire.length) rdata.wire rdata := by
  intro before after
  have consumed : before.length + rdata.wire.length - before.length = rdata.wire.length := by
    omega
  have laidOut := readsLayout agrees before after
  unfold Reader.between at laidOut
  simp [read, Bind.bind, EStateM.bind, Reader.currentPosition, Reader.between, laidOut,
    pure, EStateM.pure]

end RData

/-- A record is read back, if it could have been read and its data is not too long. -/
theorem Record.reads
    {record : Record}
    (wellFormed : record.WellFormed)
    (short : record.rdata.wire.length ≤ maxMessageLength) :
    Reads read record.wire record := by
  simp only [wire, headWire, List.append_assoc]
  refine (Reads.name _).bind ?_
  refine (Reads.word _).bind ?_
  refine (Reads.word _).bind ?_
  refine (Reads.longWord _).bind ?_
  refine (Reads.word _).bind ?_
  rw [toNat_ofNat_of_le short, Coded.ofCode_code_iff.mpr wellFormed.rtype_proper,
    Coded.ofCode_code_iff.mpr wellFormed.rclass_proper]
  exact (RData.reads wellFormed.layout_eq).map _

end Dns
end Sinkhole
