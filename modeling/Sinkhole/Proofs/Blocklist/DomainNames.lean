import Sinkhole.Proofs.Blocklist.Labels
import Sinkhole.Proofs.Dns.NameText

/-!
# Domain names on a list

A list writes a name as text, and a message has it as labels. They meet at the canonical
form: the key under which a domain name is looked up is the canonical form of its stored
text. So a legal text finds every domain name that it writes, in any letter case and with
or without a trailing dot.
-/

namespace Sinkhole

/-! ## The canonical form of a domain name -/

namespace Dns.Name

/-- The key of a domain name is the canonical form of its text. -/
theorem canonical_eq_canonical_text (name : Name) :
    name.canonical = Pattern.canonical name.text := by
  by_cases empty : name.labels = []
  · rw [eq_root_of_labels_eq_nil empty]
    decide
  · have bare : Text.withoutDot name.text.toList = name.characters := by
      rw [Text.withoutDot_of_getLast?_ne (getLast?_text_ne_dot empty), text, String.toList_ofList]
    rw [← String.toList_inj, Pattern.toList_canonical, bare, canonical, String.toList_ofList,
      qualified_eq empty, List.map_append]
    rfl

end Dns.Name

/-! ## Other spellings -/

namespace Pattern

/-- Two texts agree but for letter case and one trailing dot. -/
def Agrees (first second : String) : Prop :=
  lowercase first = lowercase second ∨ lowercase first = lowercase second ++ "." ∨
    lowercase second = lowercase first ++ "."

instance (first second : String) : Decidable (Agrees first second) :=
  inferInstanceAs (Decidable (_ ∨ _))

@[simp] theorem canonical_lowercase (text : String) :
    canonical (lowercase text) = canonical text := by
  rw [canonical_eq_iff, loweredLabels_lowercase]

/-- A dot after a text that does not end in one leaves the canonical form as it is. -/
theorem canonical_append_dot
    {text : String}
    (undotted : text.toList.getLast? ≠ some '.') :
    canonical (text ++ ".") = canonical text := by
  rw [← String.toList_inj, toList_canonical, toList_canonical,
    Text.withoutDot_of_getLast?_ne undotted]
  congr 2
  rw [String.toList_append]
  exact Text.withoutDot_append_dot _

/-- No legal text but a lone dot agrees with the root. -/
theorem not_agrees_root
    {text : String}
    (legal : isLegal text = true)
    (notRoot : text ≠ ".") :
    ¬Agrees text "." := by
  rw [← isLegal_lowercase] at legal
  rintro (equal | dotted | dotless)
  · exact notRoot (lowercase_eq_root_iff.mp equal)
  · have unlawful : isLegal (lowercase "." ++ ".") = false := by decide
    rw [dotted, unlawful] at legal
    contradiction
  · have empty : lowercase text = "" := by
      have toList_eq : [] ++ ['.'] = (lowercase text).toList ++ ['.'] := by
        have appended := congrArg String.toList dotless
        rwa [String.toList_append] at appended
      rw [← String.toList_inj]
      exact (List.append_cancel_right toList_eq).symm
    have unlawful : isLegal "" = false := by decide
    rw [empty, unlawful] at legal
    contradiction

/-- A legal text other than the root has the key of every domain name that it agrees
with. -/
theorem canonical_eq_of_agrees
    {text : String}
    {name : Dns.Name}
    (legal : isLegal text = true)
    (notRoot : text ≠ ".")
    (agrees : Agrees text name.text) :
    canonical text = name.canonical := by
  have proper : name.labels ≠ [] := by
    intro empty
    rw [Dns.Name.eq_root_of_labels_eq_nil empty] at agrees
    exact not_agrees_root legal notRoot agrees
  have undotted : (lowercase name.text).toList.getLast? ≠ some '.' := by
    rw [toList_lowercase, ne_eq, Text.getLast?_map_toLower_eq_dot]
    exact Dns.Name.getLast?_text_ne_dot proper
  rw [Dns.Name.canonical_eq_canonical_text, ← canonical_lowercase text,
    ← canonical_lowercase name.text]
  rcases agrees with equal | dotted | dotless
  · rw [equal]
  · rw [dotted, canonical_append_dot undotted]
  · rw [dotless, String.toList_append] at undotted
    exact absurd List.getLast?_concat undotted

end Pattern
end Sinkhole
