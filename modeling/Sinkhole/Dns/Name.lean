import Sinkhole.Text.Dotted
import Sinkhole.Text.Quoted
import Sinkhole.Text.Utf8

/-!
# Domain names

A domain name is a list of labels; the root name has none. A label is one to
sixty-three printable ASCII octets other than the dot, with its letter case kept
as received, so every label can be written as text and read back. On the wire a
name takes one octet per label besides the label itself and one for the end, in
all at most 255.

The stored text of a name has no trailing dot, and the root is a lone dot. The
fully qualified form always ends in a dot. Two names are equal when their labels
are, letter case included; the canonical form is the one to compare for matching.
-/

namespace Sinkhole
namespace Dns

/-- The longest label, in octets. -/
def maxLabelLength : Nat := 63

/-- The longest name on the wire, in octets. -/
def maxNameLength : Nat := 255

/-- An octet that a label may hold: printable ASCII other than space and dot. -/
def isLabelOctet (octet : UInt8) : Bool :=
  0x21 ≤ octet && octet ≤ 0x7E && octet != 0x2E

/-- Why octets are not a label. -/
inductive LabelError
  | empty
  | tooLong (length : Nat)
  | octet (value : UInt8)
  deriving DecidableEq

/-- Two hexadecimal digits for one octet. -/
def octetText (octet : UInt8) : String :=
  String.ofList
    [Nat.digitChar (octet.toNat / 16), Nat.digitChar (octet.toNat % 16)]

/-- The report of a rejected label. -/
def LabelError.message : LabelError → String
  | .empty => "empty label"
  | .tooLong length => "label too long (" ++ toString length ++ " bytes)"
  | .octet value => "label contains byte 0x" ++ octetText value

/-- A label of a domain name. -/
structure Label where
  octets : List UInt8
  nonempty : octets ≠ []
  length_le : octets.length ≤ maxLabelLength
  legal : ∀ octet ∈ octets, isLabelOctet octet = true
  deriving DecidableEq

namespace Label

/-- The label with the given octets; of several faults the first in the order
emptiness, length, contents is reported. -/
def ofOctets (octets : List UInt8) : Except LabelError Label :=
  if empty : octets = [] then
    .error .empty
  else if long : maxLabelLength < octets.length then
    .error (.tooLong octets.length)
  else
    match found : octets.find? fun octet => !isLabelOctet octet with
    | some octet => .error (.octet octet)
    | none =>
        .ok {
          octets
          nonempty := empty
          length_le := Nat.le_of_not_lt long
          legal := by simpa using found }

/-- A label's octets are a label, and no other list of octets gives it. -/
theorem ofOctets_eq_ok_iff {octets : List UInt8} {label : Label} :
    ofOctets octets = .ok label ↔ octets = label.octets := by
  constructor
  · unfold ofOctets
    split
    · simp
    · split
      · simp
      · split
        · simp
        · intro equal
          injection equal with equal
          subst equal
          rfl
  · rintro rfl
    have noFault : label.octets.find? (fun octet => !isLabelOctet octet) = none := by
      simpa using label.legal
    have short := Nat.not_lt.mpr label.length_le
    unfold ofOctets
    rw [dif_neg label.nonempty, dif_neg short]
    split
    · simp_all
    · rfl

/-- The characters of a label. -/
def characters (label : Label) : List Char :=
  label.octets.map Char.ofUInt8

/-- The label on the wire: its length, then its octets. -/
def wire (label : Label) : List UInt8 :=
  UInt8.ofNat label.octets.length :: label.octets

@[simp] theorem length_wire (label : Label) :
    label.wire.length = label.octets.length + 1 := by
  simp [wire]

end Label

/-- The number of octets that labels take on the wire, with the end of the name. -/
def wireLength : List Label → Nat
  | [] => 1
  | label :: rest => label.octets.length + 1 + wireLength rest

@[simp] theorem wireLength_nil : wireLength [] = 1 := rfl

@[simp] theorem wireLength_cons (label : Label) (labels : List Label) :
    wireLength (label :: labels) = label.octets.length + 1 + wireLength labels := rfl

theorem length_flatMap_wire (labels : List Label) :
    (labels.flatMap Label.wire).length + 1 = wireLength labels := by
  induction labels with
  | nil => rfl
  | cons label rest hypothesis =>
      rw [List.flatMap_cons, List.length_append, Label.length_wire, wireLength_cons, ← hypothesis,
        Nat.add_assoc]

/-- A domain name. -/
structure Name where
  labels : List Label
  wireLength_le : wireLength labels ≤ maxNameLength
  deriving DecidableEq

/-- Why a text is not a domain name. The text is kept as it was given. -/
inductive NameError
  | label (text : String) (error : LabelError)
  | tooLong (length : Nat) (text : String)
  deriving DecidableEq

/-- The report of a rejected name. -/
def NameError.message : NameError → String
  | .label text error =>
      "invalid domain name " ++ Text.quoted text ++ ": " ++ error.message
  | .tooLong length text =>
      "domain name too long (" ++ toString length ++ " bytes): " ++ text

namespace Name

/-- The root name. -/
def root : Name :=
  ⟨[], by decide⟩

/-- The root name has no labels. -/
def isRoot (name : Name) : Bool :=
  name.labels.isEmpty

/-- The name with the given labels, if it is not too long. -/
def ofLabels? (labels : List Label) : Option Name :=
  if fits : wireLength labels ≤ maxNameLength then some ⟨labels, fits⟩ else none

theorem ofLabels?_eq_some_iff {labels : List Label} {name : Name} :
    ofLabels? labels = some name ↔ labels = name.labels := by
  unfold ofLabels?
  constructor
  · split
    · intro equal
      injection equal with equal
      subst equal
      rfl
    · simp
  · rintro rfl
    rw [dif_pos name.wireLength_le]

/-- The labels on the wire, then the zero that ends a name. -/
def wire (name : Name) : List UInt8 :=
  name.labels.flatMap Label.wire ++ [0]

theorem length_wire (name : Name) : name.wire.length = wireLength name.labels := by
  rw [wire, List.length_append, List.length_singleton, length_flatMap_wire]

/-- The characters of the stored text. -/
def characters (name : Name) : List Char :=
  if name.isRoot then ['.']
  else ['.'].intercalate (name.labels.map Label.characters)

/-- The stored text, without a trailing dot. -/
def text (name : Name) : String :=
  String.ofList name.characters

/-- The characters of the fully qualified form. -/
def qualified (name : Name) : List Char :=
  if name.isRoot then ['.']
  else name.labels.flatMap fun label => label.characters ++ ['.']

/-- The fully qualified form, with its trailing dot. -/
def fqdn (name : Name) : String :=
  String.ofList name.qualified

/-- The lowercase fully qualified form, the key for look-ups. -/
def canonical (name : Name) : String :=
  String.ofList (name.qualified.map Char.toLower)

/-- Read a name from text. An empty text and a lone dot are the root; otherwise one
trailing dot is dropped and the rest is split at its dots. -/
def parse (text : String) : Except NameError Name :=
  if text.toList = [] ∨ text.toList = ['.'] then
    .ok root
  else
    let parts := (Text.withoutDot text.toList).splitOn '.'
    match parts.mapM fun part => Label.ofOctets (Text.utf8 part) with
    | .error error => .error (.label text error)
    | .ok labels =>
        match ofLabels? labels with
        | some name => .ok name
        | none => .error (.tooLong (wireLength labels) text)

end Name
end Dns
end Sinkhole
