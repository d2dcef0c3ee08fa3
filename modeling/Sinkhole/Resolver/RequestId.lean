/-!
# Identifiers of requests

The lines that a request leaves in the log carry an identifier, made of octets that
chance provides and written with two hexadecimal digits each.
-/

namespace Sinkhole
namespace RequestId

/-- The number of octets in an identifier. -/
def size : Nat := 16

/-- The two hexadecimal digits of an octet. -/
def octetDigits (octet : UInt8) : List Char :=
  [Nat.digitChar (octet.toNat / 16), Nat.digitChar (octet.toNat % 16)]

/-- The identifier made of the given octets. -/
def text (octets : List UInt8) : String :=
  String.ofList (octets.flatMap octetDigits)

/-- An identifier has two characters for each octet. -/
theorem length_text (octets : List UInt8) : (text octets).length = 2 * octets.length := by
  rw [text, String.length_ofList]
  induction octets with
  | nil => rfl
  | cons octet rest hypothesis =>
      simp only [List.flatMap_cons, List.length_append, hypothesis, List.length_cons,
        octetDigits, List.length_nil]
      omega

end RequestId
end Sinkhole
