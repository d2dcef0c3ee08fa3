/-!
# Characters as octets

Text is written as UTF-8. It is read as UTF-8 too, and what is not UTF-8 in it does
not stop the reading: each longest run of octets that begins a character but does
not finish one, and each octet that begins none, is read as U+FFFD.
-/

namespace Sinkhole
namespace Text

/-- The octets of a text. -/
def utf8 (characters : List Char) : List UInt8 :=
  characters.flatMap String.utf8EncodeChar

@[simp] theorem utf8_nil : utf8 [] = [] := rfl

@[simp] theorem utf8_cons (character : Char) (rest : List Char) :
    utf8 (character :: rest) = String.utf8EncodeChar character ++ utf8 rest := by
  simp [utf8]

/-- The character that stands for octets which are not UTF-8. -/
def replacement : Char := '\ufffd'

/-- A continuation octet holds six bits of a character. -/
def isContinuation (octet : UInt8) : Bool :=
  0x80 ≤ octet && octet ≤ 0xBF

/-- The bits of a continuation octet. -/
def continuationBits (octet : UInt8) : Nat :=
  octet.toNat % 64

/-- How a character goes on after its leading octet: the number of octets that
follow, the bits that the leading octet gives, and the bounds of the octet after
it, which rule out overlong forms, surrogates and values past the last code
point. -/
structure Lead where
  following : Nat
  bits : Nat
  low : UInt8
  high : UInt8

/-- What a leading octet of a longer character announces. -/
def lead? (octet : UInt8) : Option Lead :=
  if 0xC2 ≤ octet && octet ≤ 0xDF then some ⟨1, octet.toNat % 32, 0x80, 0xBF⟩
  else if octet == 0xE0 then some ⟨2, 0, 0xA0, 0xBF⟩
  else if octet == 0xED then some ⟨2, 13, 0x80, 0x9F⟩
  else if 0xE1 ≤ octet && octet ≤ 0xEF then some ⟨2, octet.toNat % 16, 0x80, 0xBF⟩
  else if octet == 0xF0 then some ⟨3, 0, 0x90, 0xBF⟩
  else if 0xF1 ≤ octet && octet ≤ 0xF3 then some ⟨3, octet.toNat % 8, 0x80, 0xBF⟩
  else if octet == 0xF4 then some ⟨3, 4, 0x80, 0x8F⟩
  else none

/-- The continuation octets that finish a character: its code point if all are
there, and the number of octets read in either case. -/
def continueChar : Nat → Nat → Nat → List UInt8 → Option Nat × Nat
  | 0, bits, taken, _ => (some bits, taken)
  | missing + 1, bits, taken, octet :: rest =>
      if isContinuation octet then
        continueChar missing (bits * 64 + continuationBits octet) (taken + 1) rest
      else
        (none, taken)
  | _ + 1, _, taken, [] => (none, taken)

/-- The first character of a text, and how many octets it takes after the first. -/
def firstChar (octet : UInt8) (rest : List UInt8) : Char × Nat :=
  if octet < 0x80 then
    (Char.ofUInt8 octet, 0)
  else
    match lead? octet, rest with
    | some lead, second :: others =>
        if lead.low ≤ second && second ≤ lead.high then
          match continueChar (lead.following - 1)
              (lead.bits * 64 + continuationBits second) 1 others with
          | (some code, taken) => (Char.ofNat code, taken)
          | (none, taken) => (replacement, taken)
        else
          (replacement, 0)
    | _, _ => (replacement, 0)

/-- Read the characters of `octets` after those already `done`, which stand in
reverse order. -/
def repairOnto (done : List Char) : List UInt8 → List Char
  | [] => done.reverse
  | octet :: rest =>
      let first := firstChar octet rest
      repairOnto (first.1 :: done) (rest.drop first.2)
  termination_by octets => octets.length
  decreasing_by
    simp only [List.length_drop, List.length_cons]
    omega

/-- The characters of a text, with U+FFFD for what is not UTF-8. -/
def repaired (octets : List UInt8) : List Char :=
  repairOnto [] octets

end Text
end Sinkhole
