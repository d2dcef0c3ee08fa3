import Mathlib.Data.List.Forall2
import Sinkhole.Proofs.Dns.Capacity
import Sinkhole.Proofs.Dns.NameTrail
import Sinkhole.Proofs.Text.LetterCase

/-!
# The views of a name

A name can be seen as a text, with or without a dot at the end, as labels, and as octets of a
message. Each view tells the name: both texts are read as it, the labels are what stands between
the dots, and the octets are written for it and read as it wherever they stand.

Taking the letters of a name to lowercase does so in every view. The canonical form is the text
of the lowered name, and its octets are the lowered octets, as no length of a label is a letter.
So names have the same canonical form when their octets differ in the case of letters alone.
-/

namespace Sinkhole
namespace Dns

/-- A piece is read where its octets stand. -/
theorem Reads.of_standsAt
    {α : Type}
    {read : Read α}
    {octets : List UInt8}
    {value : α}
    (reads : Reads read octets value)
    {buffer : Array UInt8}
    {place : Nat}
    (nonempty : octets ≠ [])
    (stands : StandsAt buffer place octets) :
    read { buffer, position := place } =
      .ok value { buffer, position := place + octets.length } := by
  have inside := stands.stop_le_size nonempty
  have length_eq : (buffer.toList.take place).length = place := by
    rw [List.length_take, Array.length_toList]
    omega
  -- The buffer is what comes before the piece, the piece, and what comes behind it.
  obtain ⟨rest, split⟩ := stands
  have whole : (buffer.toList.take place ++ (octets ++ rest)).toArray = buffer := by
    rw [split, List.take_append_drop]
  have read_eq := reads (buffer.toList.take place) rest
  simp only [Reader.between, List.append_assoc, whole, List.length_append, length_eq] at read_eq
  exact read_eq

/-! ## Octets in lowercase -/

/-- An octet, in lowercase if it is a letter. -/
def lowerOctet (octet : UInt8) : UInt8 :=
  if 0x41 ≤ octet ∧ octet ≤ 0x5A then octet + 0x20 else octet

/-- The first octet is a capital letter, and the second is the same letter small. -/
def IsCapitalOf (capital small : UInt8) : Prop :=
  0x41 ≤ capital ∧ capital ≤ 0x5A ∧ small = capital + 0x20

/-- Octets that differ at most in the case of letters. -/
def SameButCase (first second : List UInt8) : Prop :=
  List.Forall₂ (fun one other => one = other ∨ IsCapitalOf one other ∨ IsCapitalOf other one)
    first second

instance (capital small : UInt8) : Decidable (IsCapitalOf capital small) :=
  inferInstanceAs (Decidable (_ ∧ _))

instance (first second : List UInt8) : Decidable (SameButCase first second) :=
  inferInstanceAs (Decidable (List.Forall₂ _ _ _))

theorem toNat_lowerOctet (octet : UInt8) :
    (lowerOctet octet).toNat =
      if 65 ≤ octet.toNat ∧ octet.toNat ≤ 90 then octet.toNat + 32 else octet.toNat := by
  have letter_iff : 0x41 ≤ octet ∧ octet ≤ 0x5A ↔ 65 ≤ octet.toNat ∧ octet.toNat ≤ 90 := by
    rw [UInt8.le_iff_toNat_le, UInt8.le_iff_toNat_le]
    rfl
  unfold lowerOctet
  split
  · next letter =>
      rw [if_pos (letter_iff.mp letter), UInt8.toNat_add]
      have high := (letter_iff.mp letter).2
      change (octet.toNat + 32) % 256 = _
      omega
  · next other => rw [if_neg (mt letter_iff.mpr other)]

theorem isCapitalOf_iff {capital small : UInt8} :
    IsCapitalOf capital small ↔
      65 ≤ capital.toNat ∧ capital.toNat ≤ 90 ∧ small.toNat = capital.toNat + 32 := by
  rw [IsCapitalOf, UInt8.le_iff_toNat_le, UInt8.le_iff_toNat_le, ← UInt8.toNat_inj,
    UInt8.toNat_add]
  change 65 ≤ _ ∧ _ ≤ 90 ∧ _ = (_ + 32) % 256 ↔ _
  omega

theorem lowerOctet_eq_iff {one other : UInt8} :
    lowerOctet one = lowerOctet other ↔
      one = other ∨ IsCapitalOf one other ∨ IsCapitalOf other one := by
  rw [isCapitalOf_iff, isCapitalOf_iff, ← UInt8.toNat_inj, ← UInt8.toNat_inj, toNat_lowerOctet,
    toNat_lowerOctet]
  split <;> split <;> omega

theorem sameButCase_iff {first second : List UInt8} :
    SameButCase first second ↔ first.map lowerOctet = second.map lowerOctet := by
  rw [← List.forall₂_eq_eq_eq, List.forall₂_map_left_iff, List.forall₂_map_right_iff]
  simp only [lowerOctet_eq_iff, SameButCase]

/-- The character of an octet in lowercase. -/
theorem ofUInt8_lowerOctet (octet : UInt8) :
    Char.ofUInt8 (lowerOctet octet) = (Char.ofUInt8 octet).toLower := by
  rw [← Char.toNat_inj, Text.toNat_toLower]
  exact toNat_lowerOctet octet

theorem isLabelOctet_lowerOctet {octet : UInt8} (legal : isLabelOctet octet = true) :
    isLabelOctet (lowerOctet octet) = true := by
  have lowered := toNat_lowerOctet octet
  rw [isLabelOctet_iff, UInt8.le_iff_toNat_le, UInt8.le_iff_toNat_le, ne_eq, ← UInt8.toNat_inj]
    at legal ⊢
  change 33 ≤ _ ∧ _ ≤ 126 ∧ ¬_ = 46 at legal
  change 33 ≤ _ ∧ _ ≤ 126 ∧ ¬_ = 46
  split at lowered <;> omega

/-! ## Names in lowercase -/

namespace Label

/-- A label in lowercase. -/
def lowered (label : Label) : Label where
  octets := label.octets.map lowerOctet
  nonempty := by simpa using label.nonempty
  length_le := by simpa using label.length_le
  legal := List.forall_mem_map.mpr fun octet member =>
    isLabelOctet_lowerOctet (label.legal octet member)

theorem characters_lowered (label : Label) :
    label.lowered.characters = label.characters.map Char.toLower := by
  simp [characters, lowered, ofUInt8_lowerOctet]

/-- The length in front of a label is no letter. -/
theorem wire_lowered (label : Label) : label.lowered.wire = label.wire.map lowerOctet := by
  have lead_eq : lowerOctet (UInt8.ofNat label.octets.length) =
      UInt8.ofNat label.octets.length := by
    have short := label.length_le
    rw [maxLabelLength] at short
    rw [← UInt8.toNat_inj, toNat_lowerOctet, label.toNat_lead, if_neg (by omega)]
  rw [wire, wire, List.map_cons, lead_eq, lowered, List.length_map]

end Label

theorem wireLength_map_lowered (labels : List Label) :
    wireLength (labels.map Label.lowered) = wireLength labels := by
  induction labels with
  | nil => rfl
  | cons label rest hypothesis => simp [hypothesis, Label.lowered]

namespace Name

/-- A name in lowercase. -/
def lowered (name : Name) : Name where
  labels := name.labels.map Label.lowered
  wireLength_le := wireLength_map_lowered name.labels ▸ name.wireLength_le

theorem wire_lowered (name : Name) : name.lowered.wire = name.wire.map lowerOctet := by
  simp only [wire, lowered, List.map_append, List.flatMap_map, List.map_flatMap,
    Label.wire_lowered]
  rfl

/-- The canonical form of a name is the fully qualified form of the name in lowercase. -/
theorem canonical_eq_fqdn_lowered (name : Name) : name.canonical = name.lowered.fqdn := by
  have qualified_eq : name.qualified.map Char.toLower = name.lowered.qualified := by
    unfold qualified isRoot lowered
    rw [List.isEmpty_map, apply_ite (List.map Char.toLower)]
    simp only [List.map_flatMap, List.flatMap_map, List.map_append, Label.characters_lowered]
    rfl
  rw [canonical, qualified_eq, fqdn]

/-- The fully qualified form tells the name. -/
theorem fqdn_inj {first second : Name} : first.fqdn = second.fqdn ↔ first = second := by
  constructor
  · intro equal
    exact Except.ok.inj (by rw [← parse_fqdn first, equal, parse_fqdn])
  · rintro rfl
    rfl

/-- The octets tell the name. -/
theorem wire_inj {first second : Name} : first.wire = second.wire ↔ first = second := by
  constructor
  · intro equal
    have read := Reads.name first [] []
    rw [equal, Reads.name second [] []] at read
    injection read with same
    exact same.symm
  · rintro rfl
    rfl

/-! ## The views -/

/-- The views of a name agree. -/
structure Views (name : Name) : Prop where
  parse_text : parse name.text = .ok name
  parse_fqdn : parse name.fqdn = .ok name
  /-- The root alone has no labels. -/
  labels_eq_nil_iff : name.labels = [] ↔ name = root
  /-- The labels with dots between them are the text, but for the root. -/
  intercalate_eq : ".".intercalate (name.labels.map Label.text) =
    if name = root then "" else name.text
  /-- The labels are what stands between the dots of the text, but for the root. -/
  splitOn_eq : ((if name = root then "" else name.text).toList.splitOn '.').filter (· ≠ []) =
    name.labels.map Label.characters
  labelOctets : ∀ label ∈ name.labels, LabelOctets (Text.utf8 label.text.toList)
  length_le : name.wire.length ≤ 255
  /-- A writer with room writes the octets and nothing else. -/
  writes : ∀ writer : Writer, writer.written.size + name.wire.length ≤ writer.limit →
    Writer.dotted name.text writer = .ok () (writer.appended name.wire)
  /-- Wherever the octets stand the name is read from them, and from no more than them. -/
  reads : ∀ buffer place, StandsAt buffer place name.wire →
    Reader.name { buffer, position := place } =
      .ok name { buffer, position := place + name.wire.length }

/-- A writer with room appends the octets of a name. -/
theorem write_of_fits
    {name : Name}
    {writer : Writer}
    (fits : writer.written.size + name.wire.length ≤ writer.limit) :
    Writer.name name writer = .ok () (writer.appended name.wire) := by
  have append_eq (piece : Piece) :
      Writer.append piece name.wire writer = .ok () (writer.appended name.wire) := by
    rw [Writer.append, if_pos fits, Writer.appended]
  unfold Writer.name
  split
  · next root =>
      have octet_eq := append_eq .octet
      rw [wire_of_isRoot root] at octet_eq ⊢
      exact octet_eq
  · exact append_eq .name

theorem labels_eq_nil_iff {name : Name} : name.labels = [] ↔ name = root :=
  ⟨eq_root_of_labels_eq_nil, fun equal => equal ▸ rfl⟩

theorem views (name : Name) : Views name where
  parse_text := name.parse_text
  parse_fqdn := name.parse_fqdn
  labels_eq_nil_iff := labels_eq_nil_iff
  intercalate_eq := by
    split
    · next isRoot =>
        rw [labels_eq_nil_iff.mpr isRoot]
        rfl
    · next notRoot =>
        rw [← String.toList_inj, String.toList_intercalate,
          toList_text (mt labels_eq_nil_iff.mp notRoot), List.map_map]
        congr 2
        funext label
        exact label.toList_text
  splitOn_eq := by
    split
    · next isRoot =>
        rw [labels_eq_nil_iff.mpr isRoot]
        rfl
    · next notRoot =>
        rw [splitOn_text (mt labels_eq_nil_iff.mp notRoot), List.filter_eq_self,
          List.forall_mem_map]
        intro label _
        exact decide_eq_true label.characters_ne_nil
  labelOctets label _ := by
    rw [label.toList_text, label.utf8_characters]
    exact labelOctets_iff.mpr ⟨label, rfl⟩
  length_le := name.length_wire ▸ name.wireLength_le
  writes writer fits := by
    rw [Writer.dotted_text, write_of_fits fits]
  reads buffer place stands := by
    have nonempty : name.wire ≠ [] := by simp [wire]
    exact (Reads.name name).of_standsAt nonempty stands

end Name

/-- The views of every name agree. Two names are equal when their octets are, and they have the
same canonical form when their octets differ at most in the case of letters. -/
theorem name_views_agree :
    (∀ name : Name, name.Views) ∧
      ∀ first second : Name,
        (first = second ↔ first.wire = second.wire) ∧
          (first.canonical = second.canonical ↔ SameButCase first.wire second.wire) := by
  refine ⟨Name.views, ?_⟩
  intro first second
  refine ⟨Name.wire_inj.symm, ?_⟩
  rw [first.canonical_eq_fqdn_lowered, second.canonical_eq_fqdn_lowered, Name.fqdn_inj,
    ← Name.wire_inj, first.wire_lowered, second.wire_lowered, sameButCase_iff]

/-- A name and the same in another letter case, written after an octet and read between two. -/
theorem name_views_agree_cased :
    let letter (octet : UInt8) (legal : isLabelOctet octet = true) : Label :=
      ⟨[octet], List.cons_ne_nil _ _, Nat.le_of_ble_eq_true rfl,
        List.forall_mem_singleton.mpr legal⟩
    let first : Name := ⟨[letter 0x41 rfl, letter 0x62 rfl], by decide⟩
    let second : Name := ⟨[letter 0x61 rfl, letter 0x42 rfl], by decide⟩
    let wire : List UInt8 := [1, 0x41, 1, 0x62, 0]
    let writer : Writer := { written := #[7], limit := 6 }
    let buffer : Array UInt8 := #[7, 1, 0x41, 1, 0x62, 0, 9]
    Name.parse "A.b" = .ok first ∧ Name.parse "A.b." = .ok first ∧
      Writer.dotted "A.b" writer = .ok () (writer.appended wire) ∧
      Reader.name { buffer, position := 1 } = .ok first { buffer, position := 6 } ∧
      first ≠ second ∧ first.canonical = second.canonical := by
  intro letter first second wire writer buffer
  obtain ⟨views, pairs⟩ := name_views_agree
  have agree := views first
  refine ⟨agree.parse_text, agree.parse_fqdn, agree.writes writer (by decide),
    agree.reads buffer 1 (by decide), ?_, ?_⟩
  · rw [ne_eq, (pairs first second).1]
    decide
  · rw [(pairs first second).2]
    decide

end Dns
end Sinkhole
