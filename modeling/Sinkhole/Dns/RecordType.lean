/-!
# Record types and classes

A type and a class are numbers of sixteen bits. Some have a mnemonic and are kept by
it; the others are kept as numbers, and written as numbers too. The type of a record
decides how its data is laid out: names inside the data have to be known, because a
name on the wire may refer to octets elsewhere in its message.
-/

namespace Sinkhole
namespace Dns

/-! ## Numbers with mnemonics -/

/-- Mnemonics for some numbers of sixteen bits. No two of them are for one number. -/
class Mnemonics (Named : Type) where
  all : List Named
  code : Named → UInt16
  text : Named → String
  find?_code (named : Named) :
    (all.find? fun other => code other == code named) = some named

/-- A number of sixteen bits, by its mnemonic or as it is. -/
inductive Coded (Named : Type)
  | named (name : Named)
  | unknown (number : UInt16)
  deriving DecidableEq

namespace Coded

variable {Named : Type} [Mnemonics Named]

/-- The number. -/
def code : Coded Named → UInt16
  | .named name => Mnemonics.code name
  | .unknown number => number

/-- A number as it is read: by its mnemonic if it has one. -/
def ofCode (number : UInt16) : Coded Named :=
  match Mnemonics.all.find? fun name : Named => Mnemonics.code name == number with
  | some name => .named name
  | none => .unknown number

/-- The mnemonic of a number, or the number where it has none. -/
def text : Coded Named → String
  | .named name => Mnemonics.text name
  | .unknown number => "unknown<" ++ toString number.toNat ++ ">"

/-- The number is not one that has a mnemonic and is kept without it. -/
def Proper (coded : Coded Named) : Prop :=
  ∀ name : Named, coded ≠ .unknown (Mnemonics.code name)

/-- Reading a number keeps it. -/
@[simp] theorem code_ofCode (number : UInt16) : (ofCode number : Coded Named).code = number := by
  unfold ofCode
  split
  · next name found => simpa [code] using List.find?_some found
  · rfl

/-- A number with a mnemonic is read as that. -/
@[simp] theorem ofCode_code_named (name : Named) :
    ofCode (Mnemonics.code name) = Coded.named name := by
  rw [ofCode, Mnemonics.find?_code]

/-- A number is read without a mnemonic only if it has none. -/
theorem proper_ofCode (number : UInt16) : (ofCode number : Coded Named).Proper := by
  intro name unnamed
  have number_eq := congrArg code unnamed
  rw [code_ofCode, code] at number_eq
  rw [number_eq, ofCode_code_named] at unnamed
  cases unnamed

/-- What is read again as it was is what is kept by its mnemonic if it has one. -/
theorem ofCode_code_iff {coded : Coded Named} : ofCode coded.code = coded ↔ coded.Proper := by
  constructor
  · intro same
    rw [← same]
    exact proper_ofCode coded.code
  · intro proper
    cases coded with
    | named name => exact ofCode_code_named name
    | unknown number =>
        rw [code, ofCode]
        split
        · next name found =>
            have code_eq : Mnemonics.code name = number := by simpa using List.find?_some found
            exact absurd (code_eq ▸ rfl) (proper name)
        · rfl

theorem proper_named (name : Named) : (Coded.named name).Proper :=
  fun _ => nofun

instance [DecidableEq Named] (coded : Coded Named) : Decidable coded.Proper :=
  decidable_of_iff _ ofCode_code_iff

end Coded

/-! ## Types -/

/-- The types with a mnemonic. -/
inductive NamedType
  | a
  | ns
  | cname
  | soa
  | ptr
  | hinfo
  | mx
  | txt
  | aaaa
  | srv
  | naptr
  | dname
  | opt
  | ds
  | rrsig
  | nsec
  | dnskey
  | svcb
  | https
  | any
  | caa
  deriving DecidableEq

namespace NamedType

/-- The number of a type. -/
def code : NamedType → UInt16
  | .a => 1
  | .ns => 2
  | .cname => 5
  | .soa => 6
  | .ptr => 12
  | .hinfo => 13
  | .mx => 15
  | .txt => 16
  | .aaaa => 28
  | .srv => 33
  | .naptr => 35
  | .dname => 39
  | .opt => 41
  | .ds => 43
  | .rrsig => 46
  | .nsec => 47
  | .dnskey => 48
  | .svcb => 64
  | .https => 65
  | .any => 255
  | .caa => 257

/-- The mnemonic of a type. -/
def text : NamedType → String
  | .a => "A"
  | .ns => "NS"
  | .cname => "CNAME"
  | .soa => "SOA"
  | .ptr => "PTR"
  | .hinfo => "HINFO"
  | .mx => "MX"
  | .txt => "TXT"
  | .aaaa => "AAAA"
  | .srv => "SRV"
  | .naptr => "NAPTR"
  | .dname => "DNAME"
  | .opt => "OPT"
  | .ds => "DS"
  | .rrsig => "RRSIG"
  | .nsec => "NSEC"
  | .dnskey => "DNSKEY"
  | .svcb => "SVCB"
  | .https => "HTTPS"
  | .any => "ANY"
  | .caa => "CAA"

instance : Mnemonics NamedType where
  all :=
    [.a, .ns, .cname, .soa, .ptr, .hinfo, .mx, .txt, .aaaa, .srv, .naptr, .dname, .opt, .ds,
      .rrsig, .nsec, .dnskey, .svcb, .https, .any, .caa]
  code
  text
  find?_code named := by cases named <;> rfl

end NamedType

/-- The type of a record or of a question. -/
abbrev RecordType := Coded NamedType

/-- How the data of a record is laid out. -/
inductive Layout
  | ipv4
  | ipv6
  | name
  | soa
  | mx
  | srv
  | raw
  deriving DecidableEq

namespace RecordType

/-- An IPv4 address. -/
def a : RecordType := .named .a

/-- A name server. -/
def ns : RecordType := .named .ns

/-- A mail exchange. -/
def mx : RecordType := .named .mx

/-- Text. -/
def txt : RecordType := .named .txt

/-- An IPv6 address. -/
def aaaa : RecordType := .named .aaaa

/-- The layout of the data in records of a type. -/
def layout : RecordType → Layout
  | .named .a => .ipv4
  | .named .aaaa => .ipv6
  | .named .cname | .named .ns | .named .ptr | .named .dname => .name
  | .named .soa => .soa
  | .named .mx => .mx
  | .named .srv => .srv
  | _ => .raw

end RecordType

/-! ## Classes -/

/-- The classes with a mnemonic. -/
inductive NamedClass
  | internet
  | chaosnet
  | hesiod
  | none
  | any
  deriving DecidableEq

namespace NamedClass

/-- The number of a class. -/
def code : NamedClass → UInt16
  | .internet => 1
  | .chaosnet => 3
  | .hesiod => 4
  | .none => 254
  | .any => 255

/-- The mnemonic of a class. -/
def text : NamedClass → String
  | .internet => "IN"
  | .chaosnet => "CH"
  | .hesiod => "HS"
  | .none => "NONE"
  | .any => "ANY"

instance : Mnemonics NamedClass where
  all := [.internet, .chaosnet, .hesiod, .none, .any]
  code
  text
  find?_code named := by cases named <;> rfl

end NamedClass

/-- The class of a record or of a question. -/
abbrev RecordClass := Coded NamedClass

/-- The Internet class. -/
def RecordClass.internet : RecordClass := .named .internet

end Dns
end Sinkhole
