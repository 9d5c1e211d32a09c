import DeviceSecurity.Net.DomainName
import DeviceSecurity.Net.IpAddress
import DeviceSecurity.Net.Percent

/-!
# Hosts of addresses

The host of an address is a domain name or an IP address. Where the scheme is one of the web, names
are brought to ASCII and one whose last label is a number is an address of four bytes, in which
each number may be decimal, octal (`0…`) or hexadecimal (`0x…`) and the last fills the bytes that
are left. Elsewhere a name is kept as it is.
-/

namespace DeviceSecurity

/-- Why a text is no address. -/
inductive UrlFault where
  | noScheme
  | emptyHost
  | invalidDomain
  | invalidDomainCharacter
  | invalidIpv4
  | invalidIpv6
  | invalidPort
deriving DecidableEq, Repr

/-- The text of a fault. -/
def UrlFault.message : UrlFault → String
  | noScheme => "relative URL without a base"
  | emptyHost => "empty host"
  | invalidDomain => "invalid international domain name"
  | invalidDomainCharacter => "invalid domain character"
  | invalidIpv4 => "invalid IPv4 address"
  | invalidIpv6 => "invalid IPv6 address"
  | invalidPort => "invalid port number"

/-- The host of an address. -/
inductive Host where
  | domain (name : String)
  | ip (address : IpAddress)
deriving DecidableEq, Repr

namespace Host

/-- The written form; sixteen bytes stand in brackets. -/
def text : Host → String
  | domain name => name
  | ip (.v4 bytes) => IpAddress.dotted bytes
  | ip (.v6 groups) => "[" ++ IpAddress.compressGroups groups ++ "]"

/-! ## Numbers -/

/-- The number that digits of a base spell. -/
def number? (base : Nat) (digits : List Char) : Option Nat :=
  digits.foldlM (fun n c => do
    let d ← Bytes.hexValue? c
    if d < base then some (n * base + d) else none) 0

/-- One number of an address of four bytes. -/
def part? : List Char → Option Nat
  | [] => none
  | '0' :: 'x' :: digits => number? 16 digits
  | '0' :: 'X' :: digits => number? 16 digits
  | '0' :: digit :: digits => number? 8 (digit :: digits)
  | digits => number? 10 digits

/-- The labels of a name, without an empty one at the end. -/
def labels (name : List Char) : List (List Char) :=
  let labels := Text.splitAt '.' name
  if 1 < labels.length && labels.getLast? == some [] then labels.dropLast else labels

/-- Whether a name must be an address of four bytes, because its last label is a number. -/
def endsInNumber (name : List Char) : Bool :=
  match (labels name).getLast? with
  | some last => (!last.isEmpty && last.all Char.isDigit) || (part? last).isSome
  | none => false

/-- The four bytes that at most four numbers spell; the last fills all that the others leave. -/
def v4OfNumbers? (numbers : List Nat) : Option (List Nat) := do
  let last ← numbers.getLast?
  let first := numbers.dropLast
  let width := 4 - first.length
  if 4 < numbers.length || first.any (255 < ·) || Nat.pow 256 width ≤ last then none
  else some (first ++ (Bytes.ofNat width last).map UInt8.toNat)

/-- An address of four bytes in any of its spellings. -/
def v4? (name : List Char) : Option (List Nat) := do
  v4OfNumbers? (← (labels name).mapM part?)

/-! ## Reading -/

/-- An address between brackets. -/
def ofBrackets (s : List Char) : Except UrlFault Host :=
  match s.getLast?, IpAddress.v6Groups? s.dropLast with
  | some ']', some groups => .ok (ip (.v6 groups))
  | _, _ => .error .invalidIpv6

/-- The host of an address of the web. -/
def ofWeb (s : List Char) : Except UrlFault Host := do
  match s with
  | '[' :: rest => ofBrackets rest
  | _ =>
    let some decoded := Bytes.toText? (Percent.decode s) | throw .invalidDomain
    let some name := DomainName.toAscii? decoded.toList | throw .invalidDomain
    if name.isEmpty then throw .emptyHost
    if endsInNumber name then
      match v4? name with
      | some bytes => return ip (.v4 bytes)
      | none => throw .invalidIpv4
    return domain (String.ofList name)

/-- A character that no host may hold. -/
def isForbidden (c : Char) : Bool := "\x00\t\n\r #/:<>?@[\\]^|".toList.contains c

/-- The host of any other address. -/
def ofOpaque (s : List Char) : Except UrlFault Host :=
  match s with
  | '[' :: rest => ofBrackets rest
  | _ =>
    if s.any isForbidden then .error .invalidDomainCharacter
    else .ok (domain (String.ofList (Percent.encode (fun _ => false) s)))

end Host

end DeviceSecurity
