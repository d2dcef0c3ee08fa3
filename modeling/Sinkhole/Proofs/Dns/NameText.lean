import Sinkhole.Dns.Name
import Sinkhole.Proofs.Text.Dots
import Sinkhole.Proofs.Text.Octets

/-!
# Names and their texts

The labels of a name hold printable ASCII alone, and no dot. So the stored text of a name
can be split at its dots into the labels again, and every name is given by some text.
-/

namespace Sinkhole
namespace Dns

/-- An octet of a label is ASCII. -/
theorem toNat_lt_of_isLabelOctet {octet : UInt8} (legal : isLabelOctet octet = true) :
    octet.toNat < 128 := by
  simp only [isLabelOctet, Bool.and_eq_true, decide_eq_true_eq] at legal
  have high := UInt8.le_iff_toNat_le.mp legal.1.2
  exact Nat.lt_of_le_of_lt high (by decide)

/-- An octet of a label is the UTF-8 form of its character. -/
theorem utf8EncodeChar_ofUInt8 {octet : UInt8} (legal : isLabelOctet octet = true) :
    String.utf8EncodeChar (Char.ofUInt8 octet) = [octet] := by
  have ascii : Text.isAscii (Char.ofUInt8 octet) = true :=
    decide_eq_true (toNat_lt_of_isLabelOctet legal)
  rw [Text.utf8EncodeChar_of_isAscii ascii, List.singleton_inj]
  exact UInt8.ofNat_toNat

theorem ofUInt8_ne_dot {octet : UInt8} (legal : isLabelOctet octet = true) :
    Char.ofUInt8 octet ≠ '.' := by
  intro equal
  have octets_eq := utf8EncodeChar_ofUInt8 legal
  rw [equal] at octets_eq
  have dot : [octet] = [0x2E] := octets_eq.symm.trans (by decide)
  rw [List.singleton_inj.mp dot] at legal
  contradiction

namespace Label

/-- The octets of a label are those of its characters. -/
theorem utf8_characters (label : Label) : Text.utf8 label.characters = label.octets := by
  have encoded (octets : List UInt8) (legal : ∀ octet ∈ octets, isLabelOctet octet = true) :
      Text.utf8 (octets.map Char.ofUInt8) = octets := by
    induction octets with
    | nil => rfl
    | cons octet rest hypothesis =>
        rw [List.forall_mem_cons] at legal
        rw [List.map_cons, Text.utf8_cons, utf8EncodeChar_ofUInt8 legal.1,
          hypothesis legal.2, List.singleton_append]
  exact encoded label.octets label.legal

/-- The text of a label. -/
def text (label : Label) : String :=
  String.ofList label.characters

@[simp] theorem toList_text (label : Label) : label.text.toList = label.characters := by
  simp [text]

theorem dot_not_mem_characters (label : Label) : '.' ∉ label.characters := by
  intro member
  obtain ⟨octet, octetMember, equal⟩ := List.mem_map.mp member
  exact ofUInt8_ne_dot (label.legal octet octetMember) equal

theorem characters_ne_nil (label : Label) : label.characters ≠ [] := by
  simpa [characters] using label.nonempty

/-- A label is read from its characters, and from no others. -/
theorem ofOctets_utf8_eq_ok_iff {part : List Char} {label : Label} :
    ofOctets (Text.utf8 part) = .ok label ↔ part = label.characters := by
  rw [ofOctets_eq_ok_iff, ← label.utf8_characters, Text.utf8_inj]

theorem mapM_ofOctets_eq_ok_iff {parts : List (List Char)} {labels : List Label} :
    parts.mapM (fun part => ofOctets (Text.utf8 part)) = .ok labels ↔
      parts = labels.map characters := by
  induction parts generalizing labels with
  | nil => cases labels <;> simp [pure, Except.pure]
  | cons part rest hypothesis =>
      rw [List.mapM_cons]
      cases labels with
      | nil =>
          cases ofOctets (Text.utf8 part) with
          | error error => simp [bind, Except.bind]
          | ok label =>
              cases rest.mapM fun part => ofOctets (Text.utf8 part) <;>
                simp [bind, Except.bind, pure, Except.pure]
      | cons label labels =>
          rw [List.map_cons, List.cons.injEq, ← ofOctets_utf8_eq_ok_iff, ← hypothesis]
          cases ofOctets (Text.utf8 part) with
          | error error => simp [bind, Except.bind]
          | ok own =>
              cases rest.mapM fun part => ofOctets (Text.utf8 part) <;>
                simp [bind, Except.bind, pure, Except.pure]

end Label

namespace Name

/-- The stored text is the labels with dots between them, except for the root. -/
theorem toList_text {name : Name} (notRoot : name.labels ≠ []) :
    name.text.toList = ['.'].intercalate (name.labels.map Label.characters) := by
  simp [text, characters, isRoot, notRoot]

/-- The parts between the dots of a stored text are the labels. -/
theorem splitOn_text {name : Name} (notRoot : name.labels ≠ []) :
    name.text.toList.splitOn '.' = name.labels.map Label.characters := by
  have dotless (part : List Char) (member : part ∈ name.labels.map Label.characters) :
      '.' ∉ part := by
    obtain ⟨label, _, rfl⟩ := List.mem_map.mp member
    exact label.dot_not_mem_characters
  rw [toList_text notRoot, List.splitOn_intercalate '.' dotless (by simpa using notRoot)]

/-- No part of a stored text is empty. -/
theorem nil_not_mem_splitOn_text {name : Name} (notRoot : name.labels ≠ []) :
    [] ∉ name.text.toList.splitOn '.' := by
  rw [splitOn_text notRoot]
  intro member
  obtain ⟨label, _, empty⟩ := List.mem_map.mp member
  exact label.characters_ne_nil empty

theorem toList_text_ne_nil {name : Name} (notRoot : name.labels ≠ []) : name.text.toList ≠ [] :=
  Text.ne_nil_of_nil_not_mem_splitOn (nil_not_mem_splitOn_text notRoot)

theorem getLast?_text_ne_dot {name : Name} (notRoot : name.labels ≠ []) :
    name.text.toList.getLast? ≠ some '.' :=
  Text.getLast?_ne_dot_of_nil_not_mem_splitOn (nil_not_mem_splitOn_text notRoot)

theorem eq_root_of_labels_eq_nil {name : Name} (empty : name.labels = []) : name = root := by
  cases name
  simp_all [root]

/-- The fully qualified form is the stored text and a dot, except for the root. -/
theorem qualified_eq {name : Name} (notRoot : name.labels ≠ []) :
    name.qualified = name.characters ++ ['.'] := by
  have joined (label : Label) (rest : List Label) :
      (label :: rest).flatMap (fun label => label.characters ++ ['.']) =
        ['.'].intercalate ((label :: rest).map Label.characters) ++ ['.'] := by
    induction rest generalizing label with
    | nil => simp
    | cons next rest hypothesis =>
        rw [List.flatMap_cons, hypothesis next]
        simp [List.intercalate_cons_cons]
  obtain ⟨label, rest, labels_eq⟩ := List.exists_cons_of_ne_nil notRoot
  simp only [qualified, characters, isRoot, labels_eq, List.isEmpty_cons, Bool.false_eq_true,
    if_false, joined]

/-- A text that is the stored text of a name, but for a trailing dot, is read as the name. -/
theorem parse_of_withoutDot_eq
    {name : Name}
    {text : String}
    (notRoot : name.labels ≠ [])
    (bare : Text.withoutDot text.toList = name.text.toList) :
    parse text = .ok name := by
  have proper : ¬(text.toList = [] ∨ text.toList = ['.']) := by
    rintro (empty | dot)
    · rw [empty] at bare
      exact toList_text_ne_nil notRoot bare.symm
    · rw [dot] at bare
      exact toList_text_ne_nil notRoot bare.symm
  have whole : ofLabels? name.labels = some name := ofLabels?_eq_some_iff.mpr rfl
  rw [parse, if_neg proper, bare]
  have read := Label.mapM_ofOctets_eq_ok_iff.mpr (splitOn_text notRoot)
  simp only [read, whole]

/-- The stored text of a name is read as the name. -/
theorem parse_text (name : Name) : parse name.text = .ok name := by
  by_cases root : name.labels = []
  · rw [eq_root_of_labels_eq_nil root]
    rfl
  · exact parse_of_withoutDot_eq root (Text.withoutDot_of_getLast?_ne (getLast?_text_ne_dot root))

/-- The fully qualified form of a name is read as the name. -/
theorem parse_fqdn (name : Name) : parse name.fqdn = .ok name := by
  by_cases root : name.labels = []
  · rw [eq_root_of_labels_eq_nil root]
    rfl
  · apply parse_of_withoutDot_eq root
    rw [fqdn, String.toList_ofList, qualified_eq root, Text.withoutDot_append_dot, text,
      String.toList_ofList]

theorem exists_text (name : Name) : ∃ text, parse text = .ok name :=
  ⟨name.text, name.parse_text⟩

end Name
end Dns
end Sinkhole
