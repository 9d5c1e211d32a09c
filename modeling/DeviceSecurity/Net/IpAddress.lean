import DeviceSecurity.Bytes
import DeviceSecurity.Text.Basic

/-!
# IP addresses

Addresses of four or sixteen bytes and their written forms: four decimal numbers with points, and
eight hexadecimal groups with colons of which one run of zeros may be left out. Numbers have no
leading zeros in the first form, and at most four digits in the second.
-/

namespace DeviceSecurity

/-- An address: four bytes, or eight groups of sixteen bits. -/
inductive IpAddress where
  | v4 (bytes : List Nat)
  | v6 (groups : List Nat)
deriving DecidableEq, Repr

namespace IpAddress

/-- The bytes of an address. -/
def toBytes : IpAddress → List UInt8
  | v4 bytes => bytes.map UInt8.ofNat
  | v6 groups => groups.flatMap fun g => [UInt8.ofNat (g / 256), UInt8.ofNat g]

/-! ## Reading -/

/-- A decimal number below 256, without leading zeros. -/
def byte? (s : List Char) : Option Nat :=
  if s.isEmpty ∨ 3 < s.length ∨ !s.all Char.isDigit ∨ (s.head? = some '0' ∧ s.length ≠ 1) then none
  else
    let n := s.foldl (fun n c => n * 10 + (c.toNat - 48)) 0
    if n < 256 then some n else none

/-- Four decimal numbers with points between them. -/
def v4Bytes? (s : List Char) : Option (List Nat) :=
  match Text.splitAt '.' s with
  | [a, b, c, d] => [a, b, c, d].mapM byte?
  | _ => none

/-- A hexadecimal number of at most four digits. -/
def group? (s : List Char) : Option Nat :=
  if s.isEmpty ∨ 4 < s.length then none
  else s.foldlM (fun n c => (Bytes.hexValue? c).map (n * 16 + ·)) 0

/-- The groups of a text with colons, of which the last may be an address of four bytes. -/
def groups? (s : List Char) : Option (List Nat) :=
  if s.isEmpty then some []
  else
    let parts := Text.splitAt ':' s
    match parts.getLast?.bind v4Bytes? with
    | some [a, b, c, d] => do
      return (← parts.dropLast.mapM group?) ++ [a * 256 + b, c * 256 + d]
    | _ => parts.mapM group?

/-- A text cut at its first pair of colons. -/
def splitPair : List Char → Option (List Char × List Char)
  | ':' :: ':' :: rest => some ([], rest)
  | c :: rest => (splitPair rest).map fun (before, behind) => (c :: before, behind)
  | [] => none

/-- Whether a text is an address of four bytes, which only may end the groups. -/
def endsInV4 (s : List Char) : Bool := ((Text.splitAt ':' s).getLast?.bind v4Bytes?).isSome

/-- Eight groups, of which a pair of colons may stand for one or more zeros. -/
def v6Groups? (s : List Char) : Option (List Nat) := do
  match splitPair s with
  | none =>
    let groups ← groups? s
    if groups.length = 8 then some groups else none
  | some (before, behind) =>
    if endsInV4 before then none
    let first ← groups? before
    let last ← groups? behind
    let missing := 8 - first.length - last.length
    if first.length + last.length ≤ 7 then
      some (first ++ List.replicate missing 0 ++ last)
    else none

/-- Reads an address. -/
def ofText? (s : String) : Option IpAddress :=
  match v4Bytes? s.toList with
  | some bytes => some (v4 bytes)
  | none => (v6Groups? s.toList).map v6

/-! ## Writing -/

/-- The start and length of the longest run of zeros in groups, the first of several. -/
def longestZeros (groups : List Nat) : Nat × Nat :=
  let runAt (i : Nat) := ((groups.drop i).takeWhile (· = 0)).length
  (List.range groups.length).foldl
    (fun best i => if best.2 < runAt i then (i, runAt i) else best) (0, 0)

/-- Groups with colons between them. -/
def joinGroups (groups : List Nat) : String :=
  String.intercalate ":" (groups.map fun g => String.ofList (Nat.toDigits 16 g))

/-- Groups in hexadecimal, the first longest run of two or more zeros left out. -/
def compressGroups (groups : List Nat) : String :=
  let (start, length) := longestZeros groups
  if 1 < length then
    joinGroups (groups.take start) ++ "::" ++ joinGroups (groups.drop (start + length))
  else joinGroups groups

/-- Four numbers with points. -/
def dotted (bytes : List Nat) : String := String.intercalate "." (bytes.map toString)

/-- The written form. An address that stands for one of four bytes ends in that one. -/
def text : IpAddress → String
  | v4 bytes => dotted bytes
  | v6 groups =>
    match groups with
    | [0, 0, 0, 0, 0, 0xffff, a, b] => "::ffff:" ++ dotted [a / 256, a % 256, b / 256, b % 256]
    | _ => compressGroups groups

end IpAddress

end DeviceSecurity
