import Sinkhole.Net.Address

/-!
# Endpoints

An endpoint is an address with a port. An IPv6 address that is valid on one link
only carries the number of that link, its zone; zero means none.
-/

namespace Sinkhole
namespace Net

open Text

/-- An address with a port. -/
structure Endpoint where
  address : Address
  port : UInt16
  zone : UInt32 := 0
  deriving DecidableEq

namespace Endpoint

/-- The text of an endpoint: an IPv6 address stands between brackets. -/
def text (endpoint : Endpoint) : String :=
  let port := toString endpoint.port.toNat
  match endpoint.address with
  | .ipv4 address => address.text ++ ":" ++ port
  | .ipv6 address =>
      let zone :=
        if endpoint.zone = 0 then "" else "%" ++ toString endpoint.zone.toNat
      "[" ++ address.text ++ zone ++ "]:" ++ port

/-- A decimal numeral of any length whose value is at most `largest`. -/
def parseNumber? (largest : Nat) (digits : List Char) : Option Nat :=
  if digits.isEmpty || !digits.all isDigit then none
  else if decimalValue digits > largest then none
  else some (decimalValue digits)

/-- Read a port. -/
def parsePort? (digits : List Char) : Option UInt16 :=
  (parseNumber? 65535 digits).map UInt16.ofNat

/-- Read an IPv6 address with its zone. -/
def parseZoned? (text : List Char) : Option (Ipv6 × UInt32) :=
  match text.splitOn '%' with
  | [address] => (Ipv6.parse? address).map fun address => (address, 0)
  | [address, zone] => do
      let address ← Ipv6.parse? address
      let zone ← parseNumber? 4294967295 zone
      pure (address, UInt32.ofNat zone)
  | _ => none

/-- Read an endpoint. -/
def parse? (text : String) : Option Endpoint :=
  match text.toList with
  | '[' :: rest =>
      match rest.splitOn ']' with
      | [inside, ':' :: digits] => do
          let (address, zone) ← parseZoned? inside
          let port ← parsePort? digits
          pure { address := .ipv6 address, port, zone }
      | _ => none
  | characters =>
      match characters.splitOn ':' with
      | [address, digits] => do
          let address ← Ipv4.parse? address
          let port ← parsePort? digits
          pure { address := .ipv4 address, port }
      | _ => none

end Endpoint
end Net
end Sinkhole
