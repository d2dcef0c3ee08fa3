import Mathlib.Data.List.TakeWhile
import Sinkhole.Net.ServerName
import Sinkhole.Proofs.Text.Dots
import Sinkhole.Text.Blank

/-!
# Names without blanks

A name that a certificate can be checked against has no blank anywhere, be it a host name or an
address. So no such name has a blank at an end, and dropping the blanks there leaves it as it is.
Of the reading of names only this is relied on: what it reads is one or the other.
-/

namespace Sinkhole

/-! ## Texts without blanks -/

namespace Text

/-- A text without a blank. -/
def Unspaced (text : List Char) : Prop :=
  ∀ character ∈ text, isBlank character = false

/-- A character between two that are printable is not blank. -/
theorem isBlank_eq_false_of_between
    {low high character : Char}
    (printable : '!' ≤ low ∧ high ≤ '~')
    (within : low ≤ character ∧ character ≤ high) :
    isBlank character = false := by
  have first : '!' ≤ character := Char.le_trans printable.1 within.1
  have last : character ≤ '~' := Char.le_trans within.2 printable.2
  rw [Char.le_def, UInt32.le_iff_toNat_le] at first last
  change 33 ≤ character.toNat at first
  change character.toNat ≤ 126 at last
  simp only [isBlank, Bool.or_eq_false_iff, Bool.and_eq_false_imp, decide_eq_true_eq,
    decide_eq_false_iff_not, beq_eq_false_iff_ne]
  omega

namespace Unspaced

/-- A text has no blank if its parts have none and are not separated by one. -/
theorem of_splitOn
    {text : List Char}
    {separator : Char}
    (separates : isBlank separator = false)
    (parts : ∀ part ∈ text.splitOn separator, Unspaced part) :
    Unspaced text := by
  intro character member
  by_cases same : character = separator
  · rwa [same]
  · obtain ⟨part, isPart, inPart⟩ := exists_mem_splitOn member same
    exact parts part isPart character inPart

theorem append {front back : List Char} (first : Unspaced front) (second : Unspaced back) :
    Unspaced (front ++ back) :=
  List.forall_mem_append.mpr ⟨first, second⟩

/-- There is nothing to drop at the ends of a text without a blank. -/
theorem trimmed_eq {text : List Char} (unspaced : Unspaced text) : trimmed text = text := by
  have kept (text : List Char) (unspaced : Unspaced text) : text.dropWhile isBlank = text := by
    rw [List.dropWhile_eq_self_iff]
    intro nonempty
    rw [unspaced _ (List.getElem_mem nonempty)]
    exact Bool.false_ne_true
  rw [trimmed, kept text unspaced, kept, List.reverse_reverse]
  exact fun character member => unspaced character (List.mem_reverse.mp member)

end Unspaced

/-! ## Digits -/

theorem isBlank_eq_false_of_isDigit {character : Char} (digit : isDigit character = true) :
    isBlank character = false := by
  simp only [isDigit, Bool.and_eq_true, decide_eq_true_eq] at digit
  exact isBlank_eq_false_of_between (by decide) digit

theorem isBlank_eq_false_of_hexDigit?
    {character : Char}
    {value : Nat}
    (digit : hexDigit? character = some value) :
    isBlank character = false := by
  unfold hexDigit? at digit
  split at digit
  · next decimal => exact isBlank_eq_false_of_isDigit decimal
  · split at digit
    · next lower =>
        simp only [Bool.and_eq_true, decide_eq_true_eq] at lower
        exact isBlank_eq_false_of_between (by decide) lower
    · split at digit
      · next upper =>
          simp only [Bool.and_eq_true, decide_eq_true_eq] at upper
          exact isBlank_eq_false_of_between (by decide) upper
      · cases digit

end Text

namespace Net

open Text

/-- Items that are all read have each been read. -/
theorem exists_of_mapM_eq_some
    {α β : Type}
    {read : α → Option β}
    {items : List α}
    {values : List β}
    (all : items.mapM read = some values)
    (item : α)
    (member : item ∈ items) :
    ∃ value, read item = some value := by
  induction items generalizing values with
  | nil => cases member
  | cons first rest hypothesis =>
      simp only [List.mapM_cons, Option.bind_eq_bind, Option.bind_eq_some_iff] at all
      obtain ⟨value, firstRead, others, restRead, _⟩ := all
      rcases List.mem_cons.mp member with rfl | later
      · exact ⟨value, firstRead⟩
      · exact hypothesis restRead later

/-! ## Addresses -/

namespace Ipv4

theorem unspaced_of_parsePart?
    {part : List Char}
    {octet : UInt8}
    (read : parsePart? part = some octet) :
    Unspaced part := by
  unfold parsePart? at read
  split at read
  · cases read
  · next digits =>
      intro character member
      simp only [Bool.or_eq_true, Bool.not_eq_true', not_or, Bool.not_eq_false] at digits
      exact isBlank_eq_false_of_isDigit (List.all_eq_true.mp digits.2 character member)

theorem unspaced_of_parse?
    {text : List Char}
    {address : Ipv4}
    (read : parse? text = some address) :
    Unspaced text := by
  unfold parse? at read
  split at read
  · next parts =>
      have dot : isBlank '.' = false := by decide
      refine .of_splitOn dot fun part isPart => ?_
      obtain ⟨octet, partRead⟩ := exists_of_mapM_eq_some parts part isPart
      exact unspaced_of_parsePart? partRead
  · cases read

end Ipv4

namespace Ipv6

theorem unspaced_of_parseGroup?
    {part : List Char}
    {group : Nat}
    (read : parseGroup? part = some group) :
    Unspaced part := by
  unfold parseGroup? at read
  split at read
  · cases read
  · obtain ⟨values, digits, _⟩ := Option.map_eq_some_iff.mp read
    intro character member
    obtain ⟨value, digit⟩ := exists_of_mapM_eq_some digits character member
    exact isBlank_eq_false_of_hexDigit? digit

theorem unspaced_of_parseTail?
    {parts : List (List Char)}
    {groups : List Nat}
    (read : parseTail? parts = some groups) :
    ∀ part ∈ parts, Unspaced part := by
  induction parts using parseTail?.induct generalizing groups with
  | case1 => exact List.forall_mem_nil _
  | case2 last inner dotted =>
      exact List.forall_mem_singleton.mpr (Ipv4.unspaced_of_parse? dotted)
  | case3 last undotted =>
      rw [parseTail?, undotted] at read
      obtain ⟨group, lastRead, _⟩ := Option.map_eq_some_iff.mp read
      exact List.forall_mem_singleton.mpr (unspaced_of_parseGroup? lastRead)
  | case4 part rest several hypothesis =>
      rw [parseTail?] at read
      · simp only [Option.bind_eq_bind, Option.bind_eq_some_iff] at read
        obtain ⟨group, partRead, others, restRead, _⟩ := read
        exact List.forall_mem_cons.mpr ⟨unspaced_of_parseGroup? partRead, hypothesis restRead⟩
      · exact several

theorem unspaced_of_colonParts
    {text : List Char}
    (parts : ∀ part ∈ colonParts text, Unspaced part) :
    Unspaced text := by
  unfold colonParts at parts
  split at parts
  · next empty =>
      rw [List.isEmpty_iff.mp empty]
      exact List.forall_mem_nil _
  · exact .of_splitOn (by decide) parts

theorem eq_of_splitDouble?
    {text before after : List Char}
    (split : splitDouble? text = some (before, after)) :
    text = before ++ ':' :: ':' :: after := by
  induction text using splitDouble?.induct generalizing before with
  | case1 rest =>
      cases split
      rfl
  | case2 character rest single hypothesis =>
      rw [splitDouble?] at split
      · obtain ⟨⟨front, back⟩, found, same⟩ := Option.map_eq_some_iff.mp split
        cases same
        rw [hypothesis found, List.cons_append]
      · exact single
  | case3 => cases split

theorem unspaced_of_parse?
    {text : List Char}
    {address : Ipv6}
    (read : parse? text = some address) :
    Unspaced text := by
  unfold parse? at read
  split at read
  · simp only [Option.bind_eq_bind, Option.bind_eq_some_iff] at read
    obtain ⟨groups, partsRead, _⟩ := read
    exact unspaced_of_colonParts (unspaced_of_parseTail? partsRead)
  · next before after found =>
      simp only [Option.bind_eq_bind, Option.bind_eq_some_iff] at read
      obtain ⟨leading, leadingRead, trailing, trailingRead, _⟩ := read
      have front : Unspaced before := by
        refine unspaced_of_colonParts fun part isPart => ?_
        obtain ⟨group, partRead⟩ := exists_of_mapM_eq_some leadingRead part isPart
        exact unspaced_of_parseGroup? partRead
      have back : Unspaced after := unspaced_of_colonParts (unspaced_of_parseTail? trailingRead)
      have colons : Unspaced [':', ':'] := by
        simp [Unspaced, isBlank]
      rw [eq_of_splitDouble? found]
      exact front.append (colons.append back)

end Ipv6

theorem Address.unspaced_of_parse?
    {text : String}
    {address : Address}
    (read : parse? text = some address) :
    Unspaced text.toList := by
  unfold parse? at read
  split at read
  · next found => exact Ipv4.unspaced_of_parse? found
  · obtain ⟨found, read, _⟩ := Option.map_eq_some_iff.mp read
    exact Ipv6.unspaced_of_parse? read

/-! ## Names -/

namespace ServerName

/-- A character that the name of a host can have. -/
def IsHostChar (character : Char) : Prop :=
  isLabelChar character = true ∨ character = '.'

/-- A reading of names reads nothing but the names of hosts, which have only letters, digits,
hyphens, underscores and dots, and addresses. -/
structure Reading.NamesOnly (read : Reading) : Prop where
  host : ∀ text name, read text = .ok (.host name) →
    ∀ character ∈ text.toList, IsHostChar character
  address : ∀ text address, read text = .ok (.address address) →
    Address.parse? text = some address

theorem isBlank_eq_false_of_isLabelChar
    {character : Char}
    (legal : isLabelChar character = true) :
    isBlank character = false := by
  simp only [isLabelChar, Bool.or_eq_true, Bool.and_eq_true, decide_eq_true_eq,
    beq_iff_eq] at legal
  rcases legal with (((digit | lower) | upper) | rfl) | rfl
  · exact isBlank_eq_false_of_isDigit digit
  · exact isBlank_eq_false_of_between (by decide) lower
  · exact isBlank_eq_false_of_between (by decide) upper
  · decide
  · decide

/-- A name that a certificate can be checked against has no blank. -/
theorem Reading.NamesOnly.unspaced_of_read
    {read : Reading}
    (names : read.NamesOnly)
    {text : String}
    {server : ServerName}
    (found : read text = .ok server) :
    Unspaced text.toList := by
  cases server with
  | host name =>
      intro character member
      rcases names.host text name found character member with legal | rfl
      · exact isBlank_eq_false_of_isLabelChar legal
      · decide
  | address address => exact Address.unspaced_of_parse? (names.address text address found)

/-- A text that is made of labels and dots has only characters that the name of a host can have. -/
theorem isHostChar_of_isHost
    {text : List Char}
    (host : isHost text = true) :
    ∀ character ∈ text, IsHostChar character := by
  simp only [isHost, Bool.and_eq_true] at host
  obtain ⟨⟨_, labels⟩, _⟩ := host
  have undotted : ∀ character ∈ withoutDot text, IsHostChar character := by
    intro character member
    by_cases dot : character = '.'
    · exact .inr dot
    · obtain ⟨label, isPart, inLabel⟩ := exists_mem_splitOn member dot
      have legal := List.all_eq_true.mp labels label isPart
      simp only [isLabel, Bool.and_eq_true] at legal
      obtain ⟨⟨⟨_, characters⟩, _⟩, _⟩ := legal
      exact .inl (List.all_eq_true.mp characters character inLabel)
  rcases eq_withoutDot_or text with same | dotted
  · rwa [same]
  · rw [dotted]
    exact List.forall_mem_append.mpr ⟨undotted, List.forall_mem_singleton.mpr (.inr rfl)⟩

/-- The reading that the program is given reads nothing but names. -/
theorem namesOnly_read : Reading.NamesOnly read := by
  constructor
  case host =>
    intro text name found
    unfold read at found
    split at found
    · next host => exact isHostChar_of_isHost host
    · split at found <;> cases found
  case address =>
    intro text address found
    unfold read at found
    split at found
    · cases found
    · split at found
      · next parsed =>
          cases found
          exact parsed
      · cases found

end ServerName
end Net
end Sinkhole
