import Mathlib.Algebra.GroupWithZero.Nat
import Sinkhole.Proofs.Dns.NameSteps
import Sinkhole.Proofs.Dns.NameText

/-!
# The trail of a name

From the place where a name starts its octets lead on, from label to label and from a pointer to
an earlier place, until a zero ends the name. The way is a trail of segments. It is told by the
octets alone: a name is read from a place exactly when a trail starts there that has few enough
pointers and whose labels are short enough in all. The name then has the labels of the trail,
and the reader is behind the first pointer of the trail, or behind the zero if there is none.
-/

namespace Sinkhole
namespace Dns

/-! ## Segments -/

/-- A part of a name in place: a label with its octets, or a pointer with its place. -/
inductive Segment
  | label (octets : List UInt8)
  | pointer (place : Nat)
  deriving DecidableEq

namespace Segment

/-- The octets of a label. -/
def octets? : Segment → Option (List UInt8)
  | .label octets => some octets
  | .pointer _ => none

/-- A segment is a pointer. -/
def isPointer : Segment → Bool
  | .label _ => false
  | .pointer _ => true

/-- The labels among some segments, in their order. -/
def labels (segments : List Segment) : List (List UInt8) :=
  segments.filterMap octets?

/-- The number of pointers among some segments. -/
def pointers (segments : List Segment) : Nat :=
  segments.countP isPointer

/-- The number of octets that the labels among some segments take as a name: one for each label
besides the label itself, and one for the end. -/
def size (segments : List Segment) : Nat :=
  1 + ((labels segments).map fun octets => 1 + octets.length).sum

/-- The position past a name in place: behind its first pointer, which takes two octets, or
behind the zero that ends it if it has no pointer. -/
def resume : List Segment → Nat → Nat
  | [], last => last + 1
  | .label _ :: rest, last => resume rest last
  | .pointer place :: _, _ => place + 2

@[simp] theorem labels_label (octets : List UInt8) (rest : List Segment) :
    labels (.label octets :: rest) = octets :: labels rest := rfl

@[simp] theorem labels_pointer (place : Nat) (rest : List Segment) :
    labels (.pointer place :: rest) = labels rest := rfl

@[simp] theorem pointers_label (octets : List UInt8) (rest : List Segment) :
    pointers (.label octets :: rest) = pointers rest :=
  List.countP_cons_of_neg Bool.false_ne_true

@[simp] theorem pointers_pointer (place : Nat) (rest : List Segment) :
    pointers (.pointer place :: rest) = pointers rest + 1 :=
  List.countP_cons_of_pos rfl

@[simp] theorem size_label (octets : List UInt8) (rest : List Segment) :
    size (.label octets :: rest) = octets.length + 1 + size rest := by
  simp only [size, labels_label, List.map_cons, List.sum_cons]
  omega

@[simp] theorem size_pointer (place : Nat) (rest : List Segment) :
    size (.pointer place :: rest) = size rest := by
  simp only [size, labels_pointer]

theorem size_pos (segments : List Segment) : 0 < size segments := by
  rw [size]
  omega

end Segment

/-! ## Trails -/

/-- Octets that may stand in a label: one to sixty-three of them, in the range of printable
ASCII without the space, and none of them a dot. -/
structure LabelOctets (octets : List UInt8) : Prop where
  positive : 1 ≤ octets.length
  length_le : octets.length ≤ 63
  printable : ∀ octet ∈ octets, 0x21 ≤ octet ∧ octet ≤ 0x7E ∧ octet ≠ 0x2E

theorem isLabelOctet_iff {octet : UInt8} :
    isLabelOctet octet = true ↔ 0x21 ≤ octet ∧ octet ≤ 0x7E ∧ octet ≠ 0x2E := by
  simp [isLabelOctet, and_assoc]

/-- The octets of labels are those that may stand in a label. -/
theorem labelOctets_iff {octets : List UInt8} :
    LabelOctets octets ↔ ∃ label : Label, label.octets = octets := by
  constructor
  · intro legal
    refine ⟨⟨octets, List.ne_nil_of_length_pos legal.positive, legal.length_le, ?_⟩, rfl⟩
    intro octet member
    exact isLabelOctet_iff.mpr (legal.printable octet member)
  · rintro ⟨label, rfl⟩
    refine ⟨List.length_pos_iff.mpr label.nonempty, label.length_le, ?_⟩
    intro octet member
    exact isLabelOctet_iff.mp (label.legal octet member)

/-- A segment stands at a place of a message and leads to another place: a label, with its
length in front, to the place behind it, and a pointer to the earlier place that it names. -/
inductive Leads (octets : Array UInt8) : Nat → Segment → Nat → Prop
  | label
      {place : Nat}
      {label : List UInt8}
      (legal : LabelOctets label)
      (lead : octets[place]? = some (UInt8.ofNat label.length))
      (stands : StandsAt octets (place + 1) label) :
      Leads octets place (.label label) (place + 1 + label.length)
  | pointer
      {place : Nat}
      {high low : UInt8}
      (first : octets[place]? = some high)
      (second : octets[place + 1]? = some low)
      (pointing : 0xC0 ≤ high)
      (backward : pointerTarget high low < place) :
      Leads octets place (.pointer place) (pointerTarget high low)

/-- Segments that lead from a place to a zero. -/
inductive Trail (octets : Array UInt8) : Nat → List Segment → Nat → Prop
  | ending
      {place : Nat}
      (found : octets[place]? = some 0) :
      Trail octets place [] place
  | step
      {place next last : Nat}
      {segment : Segment}
      {segments : List Segment}
      (leads : Leads octets place segment next)
      (rest : Trail octets next segments last) :
      Trail octets place (segment :: segments) last

variable {octets : Array UInt8}

/-- Where a name can be followed to its end there is a trail, with no more pointers than are
allowed and with the labels of the name. -/
theorem Follows.exists_trail
    {place pointers length next : Nat}
    {labels : List Label}
    (follows : Follows octets place pointers length labels next) :
    ∃ segments last, Trail octets place segments last ∧ Segment.pointers segments ≤ pointers ∧
      Segment.labels segments = labels.map Label.octets ∧ Segment.resume segments last = next := by
  induction follows with
  | @ending place _ _ found => exact ⟨[], place, .ending found, Nat.zero_le _, rfl, rfl⟩
  | @label place _ _ _ label rest found stands _ _ hypothesis =>
      obtain ⟨segments, last, trail, few, labels_eq, resume_eq⟩ := hypothesis
      have leads := Leads.label (labelOctets_iff.mpr ⟨label, rfl⟩) found stands
      refine ⟨.label label.octets :: segments, last, .step leads trail, ?_, ?_, resume_eq⟩
      · rwa [Segment.pointers_label]
      · rw [Segment.labels_label, labels_eq, List.map_cons]
  | @pointer place _ _ _ _ _ _ first second pointing backward _ hypothesis =>
      obtain ⟨segments, last, trail, few, labels_eq, _⟩ := hypothesis
      have leads := Leads.pointer first second pointing backward
      refine ⟨.pointer place :: segments, last, .step leads trail, ?_, ?_, rfl⟩
      · rw [Segment.pointers_pointer]
        exact Nat.succ_le_succ few
      · rw [Segment.labels_pointer, labels_eq]

/-- Along a trail with no more pointers than are allowed and with short enough labels a name can
be followed to its end. -/
theorem Trail.exists_follows
    {place last pointers length : Nat}
    {segments : List Segment}
    (trail : Trail octets place segments last)
    (few : Segment.pointers segments ≤ pointers)
    (short : length + Segment.size segments ≤ 256) :
    ∃ labels : List Label, labels.map Label.octets = Segment.labels segments ∧
      Follows octets place pointers length labels (Segment.resume segments last) := by
  induction trail generalizing pointers length with
  | ending found => exact ⟨[], rfl, .ending found⟩
  | @step _ _ _ _ rest leads _ hypothesis =>
      cases leads with
      | label legal lead stands =>
          obtain ⟨label, rfl⟩ := labelOctets_iff.mp legal
          rw [Segment.pointers_label] at few
          rw [Segment.size_label, ← Nat.add_assoc, ← Nat.add_assoc] at short
          obtain ⟨labels, labels_eq, follows⟩ := hypothesis few short
          refine ⟨label :: labels, ?_, .label lead stands ?_ follows⟩
          · rw [List.map_cons, labels_eq, Segment.labels_label]
          · have positive := Segment.size_pos rest
            rw [maxNameLength]
            omega
      | pointer first second pointing backward =>
          rw [Segment.pointers_pointer] at few
          rw [Segment.size_pointer] at short
          cases pointers with
          | zero => exact absurd few (Nat.not_succ_le_zero _)
          | succ allowed =>
              obtain ⟨labels, labels_eq, follows⟩ := hypothesis (Nat.le_of_succ_le_succ few) short
              exact ⟨labels, labels_eq, .pointer first second pointing backward follows⟩

/-! ## Reading a name -/

/-- A name can be made out at a place: a trail starts there with at most sixty-four pointers,
and its labels take at most 255 octets as a name. -/
structure Legible (octets : Array UInt8) (place : Nat) (segments : List Segment) (last : Nat) :
    Prop where
  trail : Trail octets place segments last
  pointers_le : Segment.pointers segments ≤ 64
  size_le : Segment.size segments ≤ 255

theorem size_eq_wireLength
    {segments : List Segment}
    {labels : List Label}
    (labels_eq : labels.map Label.octets = Segment.labels segments) :
    Segment.size segments = wireLength labels := by
  rw [Segment.size, ← labels_eq]
  clear labels_eq
  induction labels with
  | nil => rfl
  | cons label rest hypothesis =>
      simp only [List.map_cons, List.sum_cons, wireLength_cons] at hypothesis ⊢
      omega

theorem exists_legible_of_name
    {place : Nat}
    {name : Name}
    {next : Reader}
    (read : Reader.name { buffer := octets, position := place } = .ok name next) :
    ∃ segments last, Legible octets place segments last := by
  unfold Reader.name at read
  split at read
  · cases read
  · next labels stop followed =>
      obtain ⟨segments, last, trail, few, labels_eq, _⟩ :=
        (follows_of_follow followed).exists_trail
      refine ⟨segments, last, trail, few, ?_⟩
      rw [size_eq_wireLength labels_eq.symm]
      dsimp only at read
      split at read
      · next name whole =>
          rw [Name.ofLabels?_eq_some_iff.mp whole]
          exact name.wireLength_le
      · cases read

theorem Legible.exists_name
    {place last : Nat}
    {segments : List Segment}
    (legible : Legible octets place segments last) :
    ∃ name : Name, name.labels.map Label.octets = Segment.labels segments ∧
      Reader.name { buffer := octets, position := place } =
        .ok name { buffer := octets, position := Segment.resume segments last } := by
  have fits := legible.size_le
  have short : 0 + Segment.size segments ≤ 256 := by omega
  have few : Segment.pointers segments ≤ maxPointers := legible.pointers_le
  obtain ⟨labels, labels_eq, follows⟩ := legible.trail.exists_follows few short
  rw [size_eq_wireLength labels_eq] at fits
  have whole : Name.ofLabels? labels = some ⟨labels, fits⟩ := Name.ofLabels?_eq_some_iff.mpr rfl
  refine ⟨⟨labels, fits⟩, labels_eq, ?_⟩
  simp only [Reader.name, follows.follow_eq_ok, whole]

/-- A name is read from a place exactly when one can be made out there. It then has the labels
of the trail, in their order and letter case, and is the root if there are none; and the reader
is behind the first pointer of the trail, or behind the zero at its end if it has no pointer. -/
theorem name_read_iff_legible (octets : Array UInt8) (place : Nat) :
    ((∃ name next, Reader.name { buffer := octets, position := place } = .ok name next) ↔
        ∃ segments last, Legible octets place segments last) ∧
      ∀ segments last, Legible octets place segments last →
        ∃ name : Name, name.labels.map Label.octets = Segment.labels segments ∧
          (Segment.labels segments = [] → name = .root) ∧
          Reader.name { buffer := octets, position := place } =
            .ok name { buffer := octets, position := Segment.resume segments last } := by
  refine ⟨⟨?_, ?_⟩, ?_⟩
  · rintro ⟨name, next, read⟩
    exact exists_legible_of_name read
  · rintro ⟨segments, last, legible⟩
    obtain ⟨name, _, read⟩ := legible.exists_name
    exact ⟨name, _, read⟩
  · intro segments last legible
    obtain ⟨name, labels_eq, read⟩ := legible.exists_name
    refine ⟨name, labels_eq, ?_, read⟩
    intro empty
    apply Name.eq_root_of_labels_eq_nil
    rwa [empty, List.map_eq_nil_iff] at labels_eq

/-- A label and a pointer to another name before it. -/
theorem name_read_iff_legible_pointed :
    let octets : Array UInt8 := #[1, 97, 0, 1, 66, 192, 0]
    let segments : List Segment := [.label [66], .pointer 5, .label [97]]
    Legible octets 3 segments 2 ∧
      ∃ name : Name, name.labels.map Label.octets = [[66], [97]] ∧
        Reader.name { buffer := octets, position := 3 } =
          .ok name { buffer := octets, position := 7 } := by
  intro octets segments
  have legal (octet : UInt8) (printable : 0x21 ≤ octet ∧ octet ≤ 0x7E ∧ octet ≠ 0x2E) :
      LabelOctets [octet] :=
    ⟨Nat.le_refl 1, show 1 ≤ 63 by decide, List.forall_mem_singleton.mpr printable⟩
  have first : Leads octets 3 (.label [66]) 5 := .label (legal 66 (by decide)) rfl (by decide)
  have second : Leads octets 5 (.pointer 5) (pointerTarget 192 0) :=
    .pointer rfl rfl (by decide) (by decide)
  have third : Leads octets 0 (.label [97]) 2 := .label (legal 97 (by decide)) rfl (by decide)
  have trail : Trail octets 3 segments 2 := .step first (.step second (.step third (.ending rfl)))
  have legible : Legible octets 3 segments 2 := ⟨trail, by decide, by decide⟩
  obtain ⟨name, labels_eq, _, read⟩ := (name_read_iff_legible octets 3).2 segments 2 legible
  exact ⟨legible, name, labels_eq, read⟩

end Dns
end Sinkhole
