import DeviceSecurity.Trust.Certificate
import DeviceSecurity.Trust.ServerName

/-!
# Names in certificates

The alternative names of a certificate are matched against the name of a server, and against the
names that a constraint permits or excludes. Names of different kinds never match. The subject of a
certificate is a directory name of it.
-/

namespace DeviceSecurity.Trust

open Encoding

/-- A name in a certificate or in a constraint. -/
inductive GeneralName where
  | dns (name : Bytes)
  | directory
  | ip (address : Bytes)
  | uri
  /-- A kind of name that nothing is matched against. -/
  | other (kind : Nat)
deriving DecidableEq, Repr

/-- The name at the start of a byte string, and the rest. -/
def GeneralName.read (b : Bytes) : Trusting (GeneralName × Bytes) := do
  let (tag, content, rest) ← anyValue b
  match tag.toNat with
  | 0x82 => return (.dns content, rest)
  | 0xa4 => return (.directory, rest)
  | 0x86 => return (.uri, rest)
  | 0x87 => return (.ip content, rest)
  | 0xa0 => return (.other 0, rest)
  | 0x81 => return (.other 1, rest)
  | 0xa3 => return (.other 3, rest)
  | 0xa5 => return (.other 5, rest)
  | 0x88 => return (.other 8, rest)
  | _ => throw .badEncoding

/-- The names of a list up to the first that cannot be read, at most `fuel`, and that fault. -/
def readNames : (fuel : Nat) → Bytes → List GeneralName × Option TrustFault
  | 0, _ => ([], none)
  | fuel + 1, b =>
    if b.isEmpty then ([], none)
    else
      match GeneralName.read b with
      | .error fault => ([], some fault)
      | .ok (name, rest) =>
        let (names, fault) := readNames fuel rest
        (name :: names, fault)

/-- The alternative names of a certificate, and the fault that ends the list. -/
def Certificate.names (c : Certificate) : List GeneralName × Option TrustFault :=
  match c.extensions.alternativeNames with
  | some b => readNames b.length b
  | none => ([], none)

/-! ## DNS names -/

/-- What a DNS name is used for, which decides about its form. -/
inductive DnsRole where
  /-- In a certificate: it may begin with a wildcard. -/
  | presented
  /-- The name of a server: it may end with a dot. -/
  | reference
  /-- In a constraint: it may begin with a dot, or be empty. -/
  | constraint
deriving DecidableEq, Repr

/-- The characters that bytes stand for one by one. -/
def asChars (b : Bytes) : List Char := b.map fun x => Char.ofNat x.toNat

/-- Whether labels are well formed, of which the last is not all digits. -/
def areLabels (labels : List (List Char)) : Bool :=
  labels.all ServerName.isLabel && !(labels.getLast?.getD []).all Char.isDigit

/-- Whether a DNS name is well formed for its use. A wildcard needs two labels behind it. -/
def isDnsId (role : DnsRole) (name : List Char) : Bool :=
  name.length ≤ 253 &&
    match role, name with
    | .constraint, [] => true
    | .constraint, '.' :: rest => areLabels (Text.splitAt '.' rest)
    | .constraint, _ => areLabels (Text.splitAt '.' name)
    | .reference, _ => ServerName.isDnsName name
    | .presented, '*' :: '.' :: rest =>
      let labels := Text.splitAt '.' rest
      areLabels labels && 2 ≤ labels.length
    | .presented, _ => areLabels (Text.splitAt '.' name)

/-- Whether a presented name, with a wildcard that stands for one label or the rest of one, equals
a name, without regard to case. -/
def coversName (presented name : List Char) : Bool :=
  let same (a b : List Char) := a.map Char.toLower == b.map Char.toLower
  match presented with
  | '*' :: rest =>
    match name with
    | [] => false
    | _ :: tail => same rest (tail.dropWhile (· ≠ '.'))
  | _ => same presented name

/-- Whether a name in a certificate is that of a server. -/
def matchesReference (presented reference : List Char) : Trusting Bool :=
  if !isDnsId .presented presented || !isDnsId .reference reference then
    .error .malformedDnsIdentifier
  else .ok (coversName presented (Text.dropEndWhile (· == '.') reference))

/-- Whether a name in a certificate is within a constraint: equal to it, or a name below it. A name
with a wildcard is excluded if one of the names it stands for is, and it is not permitted by a
constraint that only some of them are within. -/
def matchesConstraint (permitted : Bool) (presented constraint : List Char) : Trusting Bool :=
  if !isDnsId .presented presented then .error .malformedDnsIdentifier
  else if !isDnsId .constraint constraint then .error .malformedNameConstraint
  else if presented.length ≤ constraint.length then
    .ok (!(permitted && presented.head? == some '*') && coversName presented constraint)
  else
    let excess := presented.length - constraint.length
    match constraint with
    | [] => .ok true
    | '.' :: _ => .ok (coversName (presented.drop excess) constraint)
    | _ =>
      match presented.drop (excess - 1) with
      | '.' :: rest => .ok (coversName rest constraint)
      | _ => .ok false

/-! ## Addresses -/

/-- Whether bits are ones followed by zeros. -/
def isMask (mask : Bytes) : Bool :=
  let bits := mask.flatMap fun b => (List.range 8).map fun i => b.toNat.testBit (7 - i)
  (bits.dropWhile id).all (!·)

/-- Whether an address is within a constraint, an address followed by a mask. -/
def addressWithin (address constraint : Bytes) : Trusting Bool :=
  let size := address.length
  if size ≠ 4 ∧ size ≠ 16 then .error .badEncoding
  else if constraint.length ≠ 8 ∧ constraint.length ≠ 32 then .error .invalidNetworkMask
  else if constraint.length ≠ 2 * size then .ok false
  else
    let mask := constraint.drop size
    if !isMask mask then .error .invalidNetworkMask
    else
      let masked (b : Bytes) := List.zipWith (· &&& ·) b mask
      .ok (masked address == masked (constraint.take size))

/-! ## The server's name -/

/-- The certificate must have an alternative name that is the name of the server. Malformed names
in it match nothing; a name that cannot be read ends the search. -/
def checkServerName (c : Certificate) (server : ServerName) : Trusting Unit :=
  let (names, fault) := c.names
  let found := names.any fun name =>
    match server, name with
    | .dns reference, .dns presented =>
      match matchesReference (asChars presented) reference.toList with
      | .ok b => b
      | .error _ => false
    | .ip address, .ip presented => presented == address.toBytes
    | _, _ => false
  if found then .ok ()
  else .error (fault.getD .notValidForName)

/-! ## Name constraints -/

/-- Whether a name is within the base of a constraint; nothing if they are of different kinds.
Directory names and locators are outside of what is permitted and within what is excluded. -/
def withinBase (permitted : Bool) (name base : GeneralName) : Option (Trusting Bool) :=
  match name, base with
  | .dns n, .dns b => some (matchesConstraint permitted (asChars n) (asChars b))
  | .directory, .directory => some (.ok (!permitted))
  | .ip n, .ip b => some (addressWithin n b)
  | .uri, .uri => some (.ok (!permitted))
  | .other n, .other b => if n = b then some (.error .nameConstraintViolation) else none
  | _, _ => none

/-- The base at the start of a list of bases, and the rest. -/
def readBase (b : Bytes) : Trusting (GeneralName × Bytes) := do
  let (encoded, rest) ← value sequence b
  let (base, behind) ← GeneralName.read encoded
  atEnd behind
  return (base, rest)

/-- Checks a name against a list of at most `fuel` permitted or excluded bases: it must be within a
permitted one if there is one of its kind, and within no excluded one. -/
def checkBases (permitted : Bool) (name : GeneralName) :
    (fuel : Nat) → (bases : Bytes) → (hit miss : Bool) → Trusting Unit
  | 0, _, hit, miss => if miss && !hit then .error .nameConstraintViolation else .ok ()
  | fuel + 1, bases, hit, miss =>
    if bases.isEmpty then checkBases permitted name 0 bases hit miss
    else do
      let (base, rest) ← readBase bases
      match withinBase permitted name base with
      | none => checkBases permitted name fuel rest hit miss
      | some within =>
        let inside ← within
        if inside && !permitted then throw .nameConstraintViolation
        checkBases permitted name fuel rest (hit || inside) (miss || permitted && !inside)

/-- Checks a name against the permitted and then the excluded bases. -/
def checkName (permitted excluded : Bytes) (name : GeneralName) : Trusting Unit := do
  checkBases true name permitted.length permitted false false
  checkBases false name excluded.length excluded false false

/-- The list of bases under a tag at the start of a constraint, and the rest. -/
def readBases (place : UInt8) (b : Bytes) : Trusting (Bytes × Bytes) :=
  if startsWith (constructedAt place) b then value (constructedAt place) b else .ok ([], b)

/-- Checks the names of certificates against a constraint: the alternative names of each, then its
subject. -/
def checkConstraints (constraints : Option Bytes) (certificates : List Certificate) :
    Trusting Unit := do
  let some b := constraints | return ()
  let (permitted, b) ← readBases 0 b
  let (excluded, b) ← readBases 1 b
  for c in certificates do
    let (names, fault) := c.names
    for name in names do
      checkName permitted excluded name
    if let some fault := fault then throw fault
    checkName permitted excluded .directory
  atEndOr .badEncoding b

end DeviceSecurity.Trust
