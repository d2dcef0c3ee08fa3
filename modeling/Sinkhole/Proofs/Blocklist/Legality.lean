import Mathlib.Data.Set.List
import Sinkhole.Proofs.Blocklist.Spelling

/-!
# Legal names and domain names

There are two readings of a text as a name: whether it is a legal name for a list, and which
domain name it writes. The one goes by characters and the other by octets. They split a text into
the same labels, and on ASCII texts they agree on what a label is, because the blanks and controls
that the one excludes are the octets that the other does. So the key of a domain name is always a
legal name, and when it is looked up among the wildcard patterns its labels decide.
-/

namespace Sinkhole

open Pattern

namespace Dns

/-! ## Labels -/

/-- The octets of labels are the ASCII characters other than dots, controls and blanks. -/
theorem isLabelOctet_ofNat_iff
    {character : Char}
    (ascii : Text.isAscii character = true) :
    isLabelOctet (UInt8.ofNat character.toNat) = true ↔
      character ≠ '.' ∧ Text.isControl character = false ∧ Text.isBlank character = false := by
  have small : character.toNat < 128 := of_decide_eq_true ascii
  have toNat_eq : (UInt8.ofNat character.toNat).toNat = character.toNat :=
    UInt8.toNat_ofNat_of_lt' (Nat.lt_trans small (by decide))
  have dot_iff : character = '.' ↔ character.toNat = 46 := Char.toNat_inj.symm
  simp only [isLabelOctet, Text.isControl, Text.isBlank, ne_eq, dot_iff, Bool.and_eq_true,
    Bool.and_eq_false_imp, Bool.or_eq_false_iff, decide_eq_true_eq, decide_eq_false_iff_not,
    bne_iff_ne, beq_eq_false_iff_ne, UInt8.le_iff_toNat_le, UInt8.reduceToNat,
    ← UInt8.toNat_inj, toNat_eq]
  omega

theorem forall_isLabelOctet_utf8_iff
    {characters : List Char}
    (ascii : Text.allAscii characters = true) :
    (∀ octet ∈ Text.utf8 characters, isLabelOctet octet = true) ↔
      '.' ∉ characters ∧ ∀ character ∈ characters,
        Text.isControl character = false ∧ Text.isBlank character = false := by
  rw [Text.utf8_of_allAscii ascii, List.forall_mem_map]
  constructor
  · intro legal
    have plain (character : Char) (member : character ∈ characters) :=
      (isLabelOctet_ofNat_iff (List.all_eq_true.mp ascii _ member)).mp (legal _ member)
    exact ⟨fun dot => (plain _ dot).1 rfl, fun character member => (plain _ member).2⟩
  · rintro ⟨dotless, plain⟩ character member
    apply (isLabelOctet_ofNat_iff (List.all_eq_true.mp ascii _ member)).mpr
    exact ⟨ne_of_mem_of_not_mem member dotless, plain character member⟩

namespace Label

theorem utf8_toList_text (label : Label) : Text.utf8 label.text.toList = label.octets := by
  rw [toList_text, utf8_characters]

@[simp] theorem utf8ByteSize_text (label : Label) :
    label.text.utf8ByteSize = label.octets.length := by
  rw [← Text.length_utf8, utf8_toList_text]

theorem allAscii_text (label : Label) : Text.allAscii label.text.toList = true := by
  rw [toList_text, characters, Text.allAscii, List.all_map, List.all_eq_true]
  intro octet member
  exact decide_eq_true (toNat_lt_of_isLabelOctet (label.legal octet member))

/-- The texts of labels are known by their octets. -/
theorem exists_text_eq_iff {part : String} :
    (∃ label : Label, label.text = part) ↔
      1 ≤ part.utf8ByteSize ∧ part.utf8ByteSize ≤ maxLabelLength ∧
        ∀ octet ∈ Text.utf8 part.toList, isLabelOctet octet = true := by
  constructor
  · rintro ⟨label, rfl⟩
    rw [utf8ByteSize_text, utf8_toList_text]
    exact ⟨List.length_pos_iff.mpr label.nonempty, label.length_le, label.legal⟩
  · rintro ⟨nonempty, short, legal⟩
    rw [← Text.length_utf8] at nonempty short
    refine ⟨⟨_, List.length_pos_iff.mp nonempty, short, legal⟩, ?_⟩
    rw [← String.toList_inj, ← Text.utf8_inj, utf8_toList_text]

/-- On ASCII texts a label of a list is the text of a label. -/
theorem properLabel_iff_exists_text_eq
    {part : String}
    (ascii : Text.allAscii part.toList = true) :
    ProperLabel part ↔ ∃ label : Label, label.text = part := by
  rw [exists_text_eq_iff, forall_isLabelOctet_utf8_iff ascii, properLabel_iff]
  rfl

theorem properLabel_text (label : Label) : ProperLabel label.text :=
  (properLabel_iff_exists_text_eq label.allAscii_text).mpr ⟨label, rfl⟩

end Label

theorem wireSize_map_text (labels : List Label) :
    wireSize (labels.map Label.text) = wireLength labels := by
  induction labels with
  | nil => rfl
  | cons label rest hypothesis =>
      rw [List.map_cons, wireSize, hypothesis, Label.utf8ByteSize_text, wireLength_cons]

/-! ## Names -/

namespace Name

/-- A text writes a domain name exactly when the labels of the text are those of the name. -/
theorem parse_eq_ok_iff {text : String} {name : Name} :
    parse text = .ok name ↔ name.labels.map Label.text = Pattern.labels text := by
  by_cases rootly : text = "" ∨ text = "."
  · have labels_eq : Pattern.labels text = [] := by
      rcases rootly with rfl | rfl <;> rfl
    have parse_eq : parse text = .ok root := by
      rcases rootly with rfl | rfl <;> rfl
    rw [labels_eq, parse_eq, List.map_eq_nil_iff, Except.ok.injEq]
    exact ⟨fun equal => equal ▸ rfl, fun empty => (eq_root_of_labels_eq_nil empty).symm⟩
  · rw [not_or] at rootly
    have proper : ¬(text.toList = [] ∨ text.toList = ['.']) := by
      rintro (empty | dot)
      · exact rootly.1 (String.toList_inj.mp empty)
      · exact rootly.2 (String.toList_inj.mp dot)
    have parts_iff (labels : List Label) :
        (Text.withoutDot text.toList).splitOn '.' = labels.map Label.characters ↔
          labels.map Label.text = Pattern.labels text := by
      rw [← map_toList_labels rootly.1 rootly.2,
        ← (List.map_injective_iff.mpr fun _ _ => String.toList_inj.mp).eq_iff, List.map_map,
        eq_comm]
      simp [Function.comp_def]
    rw [← parts_iff, ← Label.mapM_ofOctets_eq_ok_iff, parse, if_neg proper]
    cases read : ((Text.withoutDot text.toList).splitOn '.').mapM
        fun part => Label.ofOctets (Text.utf8 part) with
    | error error => simp [read]
    | ok labels =>
        simp only [read, Except.ok.injEq, ← ofLabels?_eq_some_iff]
        cases ofLabels? labels <;> simp

/-- A domain name can be read from a text exactly when each label of the text is a label, and they
are not too long together. -/
theorem exists_parse_eq_ok_iff {text : String} :
    (∃ name, parse text = .ok name) ↔
      (∀ part ∈ Pattern.labels text, ∃ label : Label, label.text = part) ∧
        wireSize (Pattern.labels text) ≤ maxNameLength := by
  simp only [parse_eq_ok_iff]
  constructor
  · rintro ⟨name, labels_eq⟩
    rw [← labels_eq, List.forall_mem_map, wireSize_map_text]
    exact ⟨fun label _ => ⟨label, rfl⟩, name.wireLength_le⟩
  · rintro ⟨known, fits⟩
    obtain ⟨labels, labels_eq⟩ : Pattern.labels text ∈ Set.range (List.map Label.text) := by
      rw [Set.range_list_map]
      exact known
    rw [← labels_eq, wireSize_map_text] at fits
    exact ⟨⟨labels, fits⟩, labels_eq⟩

/-- What a domain name can be read from is a legal name, unless it is the empty text. -/
theorem isLegal_of_parse_eq_ok
    {text : String}
    {name : Name}
    (nonempty : text ≠ "")
    (read : parse text = .ok name) :
    isLegal text = true := by
  rw [parse_eq_ok_iff] at read
  rw [isLegal, Option.isNone_iff_eq_none, fault?_eq_none_iff_proper nonempty, ← read,
    List.forall_mem_map, wireSize_map_text]
  exact ⟨fun label _ => label.properLabel_text, name.wireLength_le⟩

/-- An ASCII text other than the empty one is a legal name exactly when it writes a domain
name. -/
theorem isLegal_iff_exists_parse_eq_ok
    {text : String}
    (nonempty : text ≠ "")
    (ascii : Text.allAscii text.toList = true) :
    isLegal text = true ↔ ∃ name, parse text = .ok name := by
  have allAscii_of_mem (part : String) (member : part ∈ Pattern.labels text) :
      Text.allAscii part.toList = true := by
    rw [Text.allAscii, List.all_eq_true]
    intro character inPart
    have mentioned := mentions_of_mem_labels member (mentions_iff.mpr inPart)
    exact List.all_eq_true.mp ascii character (mentions_iff.mp mentioned)
  rw [isLegal, Option.isNone_iff_eq_none, fault?_eq_none_iff_proper nonempty,
    exists_parse_eq_ok_iff]
  refine and_congr (forall₂_congr fun part member => ?_) Iff.rfl
  exact Label.properLabel_iff_exists_text_eq (allAscii_of_mem part member)

/-- The key of a domain name is the canonical form of what the name is read from. -/
theorem canonical_eq_of_parse_eq_ok
    {text : String}
    {name : Name}
    (read : parse text = .ok name) :
    name.canonical = Pattern.canonical text := by
  have own := parse_eq_ok_iff.mp name.parse_text
  rw [canonical_eq_canonical_text, canonical_eq_iff, loweredLabels, loweredLabels, ← own,
    parse_eq_ok_iff.mp read]

/-! ## Keys -/

theorem text_ne_empty (name : Name) : name.text ≠ "" := by
  by_cases root : name.labels = []
  · rw [eq_root_of_labels_eq_nil root]
    decide
  · exact mt String.toList_eq_nil_iff.mpr (toList_text_ne_nil root)

/-- The key of a domain name is a legal name. -/
theorem isLegal_canonical (name : Name) : isLegal name.canonical = true := by
  have legal := isLegal_of_parse_eq_ok name.text_ne_empty name.parse_text
  rw [isLegal, Option.isNone_iff_eq_none] at legal ⊢
  rwa [canonical_eq_canonical_text, fault?_canonical_eq_none_iff name.text_ne_empty]

/-- The labels of the key are those of the name in lowercase. -/
theorem labels_canonical (name : Name) :
    Pattern.labels name.canonical = name.labels.map fun label => lowercase label.text := by
  rw [canonical_eq_canonical_text, Pattern.labels_canonical, loweredLabels,
    ← parse_eq_ok_iff.mp name.parse_text, List.map_map]
  rfl

end Name
end Dns

open Dns

/-- Among the wildcard patterns the labels of a domain name decide. Only a name with a mark, or of
one label, is out from the start. -/
theorem PatternTrie.contains_canonical_name (trie : PatternTrie) (name : Name) :
    trie.contains name.canonical =
      (!mentions name.text reservedMark && !mentions name.text '*' &&
        decide (2 ≤ name.labels.length) &&
        Walk.run {
          node := { below := trie.root }
          previous := none
          remaining := (name.labels.map fun label => lowercase label.text).reverse }) := by
  have lowered : lowercase name.canonical = name.canonical := by
    rw [Name.canonical_eq_canonical_text, lowercase_canonical]
  have mentions_eq (mark : Char) (noLetter : mark.toNat < 65) (noDot : mark ≠ '.') :
      mentions name.canonical mark = mentions name.text mark := by
    rw [Name.canonical_eq_canonical_text, mentions_canonical _ noLetter noDot]
  rw [contains, lowered, isMatchable, name.isLegal_canonical, mentions_eq _ (by decide) (by decide),
    mentions_eq _ (by decide) (by decide), path, name.labels_canonical, List.length_map,
    Bool.true_and]

/-- The two readings of a text agree. An ASCII text other than the empty one is a legal name
exactly when it writes a domain name, and then the key of the domain name is the canonical form of
the text and both have the same labels. Every domain name, and so every one that a message can
hold, has a legal key. When the key is looked up among wildcard patterns, marks and the number of
labels aside, the answer is that of the walk along the labels. -/
theorem legal_names_and_domain_names_agree :
    (∀ text : String,
      text ≠ "" →
      Text.allAscii text.toList = true →
        (isLegal text = true ↔ ∃ name, Name.parse text = .ok name) ∧
          ∀ name, Name.parse text = .ok name →
            name.canonical = canonical text ∧ name.labels.map Label.text = labels text) ∧
      ∀ name : Name,
        isLegal name.canonical = true ∧
          ∀ trie : PatternTrie,
            trie.contains name.canonical =
              (!mentions name.text reservedMark && !mentions name.text '*' &&
                decide (2 ≤ name.labels.length) &&
                Walk.run {
                  node := { below := trie.root }
                  previous := none
                  remaining :=
                    (name.labels.map fun label => lowercase label.text).reverse }) := by
  constructor
  · intro text nonempty ascii
    refine ⟨Name.isLegal_iff_exists_parse_eq_ok nonempty ascii, fun name read => ?_⟩
    exact ⟨Name.canonical_eq_of_parse_eq_ok read, Name.parse_eq_ok_iff.mp read⟩
  · intro name
    exact ⟨name.isLegal_canonical, fun trie => trie.contains_canonical_name name⟩

/-- A name with capitals and a dot at its end. -/
theorem legal_names_and_domain_names_agree_ads :
    isLegal "Ads.Example." = true ∧
      ∃ name, Name.parse "Ads.Example." = .ok name ∧ name.canonical = "ads.example." := by
  have agree := legal_names_and_domain_names_agree.1 "Ads.Example." (by decide) (by decide)
  have legal : isLegal "Ads.Example." = true := by decide
  obtain ⟨name, read⟩ := agree.1.mp legal
  have lowered : canonical "Ads.Example." = "ads.example." := by decide
  exact ⟨legal, name, read, (agree.2 name read).1.trans lowered⟩

end Sinkhole
