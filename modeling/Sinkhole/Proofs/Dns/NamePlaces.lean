import Sinkhole.Proofs.Dns.NameSteps

/-!
# Where the names of a message stand

The octets of a message do not say where its names are: a name is found by reading what
stands before it. The module says at which places reading meets a name, in a question, as
the owner of a record and in the data of a record, and whether the name at a place makes use
of a pointer. A name that does not stands there as it would be written.
-/

namespace Sinkhole
namespace Dns

/-! ## Pointers -/

/-- The name that starts at a place makes use of a pointer: there is one where its first
label or a later one could be. -/
inductive UsesPointer (octets : Array UInt8) : Nat → Prop
  | here
      {place : Nat}
      {lead : UInt8}
      (found : octets[place]? = some lead)
      (pointing : 0xC0 ≤ lead) :
      UsesPointer octets place
  | behind
      {place : Nat}
      {lead : UInt8}
      (found : octets[place]? = some lead)
      (nonzero : lead ≠ 0)
      (short : lead < 0x40)
      (rest : UsesPointer octets (place + 1 + lead.toNat)) :
      UsesPointer octets place

/-- Labels that are found without a pointer stand where they were looked for. -/
theorem Follows.standsAt
    {octets : Array UInt8}
    {place pointers length next : Nat}
    {labels : List Label}
    (follows : Follows octets place pointers length labels next)
    (plain : ¬UsesPointer octets place) :
    StandsAt octets place (labels.flatMap Label.wire ++ [0]) ∧
      next = place + (labels.flatMap Label.wire ++ [0]).length := by
  induction follows with
  | ending found => exact ⟨.singleton found, rfl⟩
  | pointer first _ pointing => exact absurd (.here first pointing) plain
  | @label place _ _ _ label rest found stands _ _ hypothesis =>
      obtain ⟨restStands, rfl⟩ := hypothesis fun pointer =>
        plain (.behind found label.lead_ne_zero label.lead_lt (label.toNat_lead.symm ▸ pointer))
      have labelStands : StandsAt octets place label.wire :=
        (StandsAt.singleton found).append stands
      rw [List.flatMap_cons, List.append_assoc]
      refine ⟨labelStands.append ?_, ?_⟩
      · rwa [Label.length_wire, Nat.add_comm label.octets.length, ← Nat.add_assoc]
      · simp only [List.length_append, Label.length_wire]
        omega

/-- A label that is written is no pointer, and the name goes on behind it. -/
theorem usesPointer_label
    {label : Label}
    {before after : List UInt8}
    (pointer : UsesPointer (before ++ (label.wire ++ after)).toArray before.length) :
    UsesPointer (before ++ label.wire ++ after).toArray (before ++ label.wire).length := by
  have leading : (before ++ (label.wire ++ after)).toArray[before.length]? =
      some (UInt8.ofNat label.octets.length) := by
    simp [Label.wire]
  cases pointer with
  | here found pointing =>
      rw [leading, Option.some.injEq] at found
      rw [← found] at pointing
      exact absurd (UInt8.le_trans (by decide) pointing) (UInt8.not_le.mpr label.lead_lt)
  | behind found _ _ rest =>
      rw [leading, Option.some.injEq] at found
      rw [← found, label.toNat_lead, Nat.add_assoc, Nat.add_comm 1, ← Label.length_wire] at rest
      rwa [List.append_assoc, List.length_append]

/-- A name that is written makes no use of a pointer. -/
theorem not_usesPointer_wire (name : Name) (before after : List UInt8) :
    ¬UsesPointer (before ++ (name.wire ++ after)).toArray before.length := by
  rw [Name.wire]
  induction name.labels generalizing before with
  | nil =>
      have ending : (before ++ ([].flatMap Label.wire ++ [0] ++ after)).toArray[before.length]? =
          some 0 := by
        simp
      rintro (⟨found, pointing⟩ | ⟨found, nonzero, -, -⟩)
      · rw [ending, Option.some.injEq] at found
        exact absurd (found ▸ pointing) (by decide)
      · rw [ending, Option.some.injEq] at found
        exact nonzero found.symm
  | cons label rest hypothesis =>
      intro pointer
      rw [List.flatMap_cons, List.append_assoc, List.append_assoc] at pointer
      apply hypothesis (before ++ label.wire)
      rw [List.append_assoc (rest.flatMap Label.wire)]
      exact usesPointer_label pointer

/-! ## Places -/

/-- A piece is read from one place of a message to another. -/
def Spans {α : Type} (read : Read α) (octets : Array UInt8) (start stop : Nat) : Prop :=
  ∃ value, read { buffer := octets, position := start } =
    .ok value { buffer := octets, position := stop }

/-- Data that starts at a place and is laid out in a given way has a name at another. -/
inductive RData.NameAt (octets : Array UInt8) (start : Nat) : Layout → Nat → Prop
  | name : NameAt octets start .name start
  | primary : NameAt octets start .soa start
  | mailbox {stop : Nat} (primary : Spans Reader.name octets start stop) :
      NameAt octets start .soa stop
  | host : NameAt octets start .mx (start + 2)
  | target : NameAt octets start .srv (start + 6)

/-- A record that starts at a place has a name at another: its owner, or one in its data,
which stands ten octets behind the owner and is laid out as the type says. -/
inductive Record.NameAt (octets : Array UInt8) (start : Nat) : Nat → Prop
  | owner : NameAt octets start start
  | data
      {stop place : Nat}
      {number : UInt16}
      (owner : Spans Reader.name octets start stop)
      (typed : StandsAt octets stop (wordOctets number))
      (inside : RData.NameAt octets (stop + 10) (RecordType.layout (.ofCode number)) place) :
      NameAt octets start place

/-- A message has a name at a place: that of one of its questions, or one in one of its
records, each of which starts where those before it end. -/
inductive Message.NameAt (octets : Array UInt8) (message : Message) : Nat → Prop
  | question
      {index place : Nat}
      (inside : index < message.questions.length)
      (before : Spans (Reader.entries index Question.read) octets headerLength place) :
      NameAt octets message place
  | record
      {index first start place : Nat}
      (inside : index < message.records.length)
      (questions :
        Spans (Reader.entries message.questions.length Question.read) octets headerLength first)
      (before : Spans (Reader.entries index Record.read) octets first start)
      (named : Record.NameAt octets start place) :
      NameAt octets message place

end Dns
end Sinkhole
