/-!
# Numbers on the wire

Numbers of two and of four octets, the most significant octet first. Writing and
reading are inverse to each other.
-/

namespace Sinkhole
namespace Dns

/-- The number that two octets hold. -/
def word (high low : UInt8) : UInt16 :=
  UInt16.ofNat (high.toNat * 256 + low.toNat)

/-- The two octets of a number. -/
def wordOctets (value : UInt16) : List UInt8 :=
  [UInt8.ofNat (value.toNat / 256), UInt8.ofNat value.toNat]

/-- The number that four octets hold. -/
def longWord (first second third fourth : UInt8) : UInt32 :=
  UInt32.ofNat
    (((first.toNat * 256 + second.toNat) * 256 + third.toNat) * 256 + fourth.toNat)

/-- The four octets of a number. -/
def longWordOctets (value : UInt32) : List UInt8 :=
  [UInt8.ofNat (value.toNat / 16777216), UInt8.ofNat (value.toNat / 65536),
    UInt8.ofNat (value.toNat / 256), UInt8.ofNat value.toNat]

@[simp] theorem length_wordOctets (value : UInt16) : (wordOctets value).length = 2 := rfl

@[simp] theorem length_longWordOctets (value : UInt32) :
    (longWordOctets value).length = 4 := rfl

theorem toNat_word (high low : UInt8) :
    (word high low).toNat = high.toNat * 256 + low.toNat := by
  have highBound := high.toNat_lt
  have lowBound := low.toNat_lt
  simp only [word, UInt16.toNat_ofNat']
  omega

theorem toNat_longWord (first second third fourth : UInt8) :
    (longWord first second third fourth).toNat =
      ((first.toNat * 256 + second.toNat) * 256 + third.toNat) * 256 + fourth.toNat := by
  have firstBound := first.toNat_lt
  have secondBound := second.toNat_lt
  have thirdBound := third.toNat_lt
  have fourthBound := fourth.toNat_lt
  simp only [longWord, UInt32.toNat_ofNat']
  omega

/-- Reading the octets of a number gives it back. -/
@[simp] theorem word_wordOctets (value : UInt16) :
    word (UInt8.ofNat (value.toNat / 256)) (UInt8.ofNat value.toNat) = value := by
  have bound := value.toNat_lt
  apply UInt16.toNat_inj.mp
  simp only [toNat_word, UInt8.toNat_ofNat']
  omega

/-- Writing the number that two octets hold gives them back. -/
@[simp] theorem wordOctets_word (high low : UInt8) :
    wordOctets (word high low) = [high, low] := by
  have highBound := high.toNat_lt
  have lowBound := low.toNat_lt
  simp only [wordOctets, toNat_word, List.cons.injEq, and_true]
  constructor <;> apply UInt8.toNat_inj.mp <;> simp only [UInt8.toNat_ofNat'] <;> omega

/-- Reading the octets of a number gives it back. -/
@[simp] theorem longWord_longWordOctets (value : UInt32) :
    longWord (UInt8.ofNat (value.toNat / 16777216)) (UInt8.ofNat (value.toNat / 65536))
      (UInt8.ofNat (value.toNat / 256)) (UInt8.ofNat value.toNat) = value := by
  have bound := value.toNat_lt
  apply UInt32.toNat_inj.mp
  simp only [toNat_longWord, UInt8.toNat_ofNat']
  omega

/-- Writing the number that four octets hold gives them back. -/
@[simp] theorem longWordOctets_longWord (first second third fourth : UInt8) :
    longWordOctets (longWord first second third fourth) =
      [first, second, third, fourth] := by
  have firstBound := first.toNat_lt
  have secondBound := second.toNat_lt
  have thirdBound := third.toNat_lt
  have fourthBound := fourth.toNat_lt
  simp only [longWordOctets, toNat_longWord, List.cons.injEq, and_true]
  refine ⟨?_, ?_, ?_, ?_⟩ <;> apply UInt8.toNat_inj.mp <;>
    simp only [UInt8.toNat_ofNat'] <;> omega

end Dns
end Sinkhole
