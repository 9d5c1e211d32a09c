import DeviceSecurity.Json.Basic
import DeviceSecurity.Bytes

/-!
# Reading JSON

`Json.parse?` reads the strict grammar of RFC 8259: blanks are the space, tab, line feed and
carriage return; strings hold no bare control and no half of a surrogate pair; numbers must not
exceed the range of floating point; containers nest at most 127 deep. Each reader takes a list of
characters and returns what it read and the rest.

Nesting is the argument that recursion runs on, so that the limit is part of the structure: a
reader of values at depth `n` reads containers with a reader at depth `n - 1`.
-/

namespace DeviceSecurity.Json

/-- A blank between tokens. -/
def isBlank (c : Char) : Bool := c == ' ' || c == '\n' || c == '\t' || c == '\r'

/-- The text without the blanks at its start. -/
def skipBlanks (s : List Char) : List Char := s.dropWhile isBlank

/-! ## Strings -/

/-- The code unit of four hexadecimal digits. -/
def unit? (a b c d : Char) : Option Nat := do
  return (← Bytes.hexValue? a) * 4096 + (← Bytes.hexValue? b) * 256 +
    (← Bytes.hexValue? c) * 16 + (← Bytes.hexValue? d)

/-- The character that a letter after a backslash stands for. -/
def shortEscape? (c : Char) : Option Char :=
  match c with
  | '"' => some '"'
  | '\\' => some '\\'
  | '/' => some '/'
  | 'b' => some '\x08'
  | 'f' => some '\x0c'
  | 'n' => some '\n'
  | 'r' => some '\r'
  | 't' => some '\t'
  | _ => none

/-- The rest of a string after its opening quote, and what follows the closing one. -/
def stringRest? : List Char → Option (List Char × List Char)
  | [] => none
  | '"' :: s => some ([], s)
  | '\\' :: 'u' :: a :: b :: c :: d :: s => do
    let high ← unit? a b c d
    if 0xd800 ≤ high ∧ high < 0xdc00 then
      match s with
      | '\\' :: 'u' :: a :: b :: c :: d :: s =>
        let low ← unit? a b c d
        if 0xdc00 ≤ low ∧ low < 0xe000 then
          let (cs, s) ← stringRest? s
          return (Char.ofNat (0x10000 + (high - 0xd800) * 0x400 + (low - 0xdc00)) :: cs, s)
        else none
      | _ => none
    else if 0xdc00 ≤ high ∧ high < 0xe000 then none
    else
      let (cs, s) ← stringRest? s
      return (Char.ofNat high :: cs, s)
  | '\\' :: c :: s => do
    let c ← shortEscape? c
    let (cs, s) ← stringRest? s
    return (c :: cs, s)
  | c :: s =>
    if c < ' ' ∨ c = '\\' then none
    else do
      let (cs, s) ← stringRest? s
      return (c :: cs, s)

/-! ## Numbers -/

/-- The limit below which a significand stays exact, `2^64`. -/
def wordLimit : Nat := 0x10000000000000000

/-- Appends digits to a significand while it stays below the limit; the rest are left. -/
def appendDigits : Nat → List Char → Nat × List Char
  | n, [] => (n, [])
  | n, d :: rest =>
    let next := n * 10 + (d.toNat - '0'.toNat)
    if next < wordLimit then appendDigits next rest else (n, d :: rest)

/-- The powers of ten that floating point holds, as nearest numbers. -/
def power10 (n : Nat) : Option Binary64 := Binary64.ofNat (Nat.pow 10 n)

/-- `x · 10^exponent`: rounded products and quotients by at most `10^308` at a time; `none` above
the range of floating point. At most `steps` quotients are taken. -/
def scale : (steps : Nat) → Binary64 → (exponent : Int) → Option Binary64
  | steps, x, exponent =>
    if exponent.natAbs ≤ 308 then
      match power10 exponent.natAbs with
      | some p => if 0 ≤ exponent then x.mul p else x.div p
      | none => none
    else if x.isZero then some x
    else if 0 ≤ exponent then none
    else
      match steps, power10 308 with
      | steps + 1, some p => do scale steps (← x.div p) (exponent + 308)
      | _, _ => some Binary64.zero

/-- The value of a number written with a fraction or an exponent, or too large to be whole. The
significand keeps the leading digits that fit 64 bits; digits dropped before the point raise the
exponent. -/
def real? (negative : Bool) (integer fraction : List Char) (exponent : Int) : Option Binary64 := do
  let (n, dropped) := appendDigits 0 integer
  let (n, unused) := appendDigits n fraction
  let exponent := exponent + dropped.length - (fraction.length - unused.length : Nat)
  -- after four quotients by `10^308` nothing is left of any significand
  let x ← scale 4 (← Binary64.ofNat n) exponent
  return x.withSign negative

/-- The value of a number's parts: sign, digits before the point, digits behind it if there is a
point, and exponent if there is one. -/
def numberValue? (negative : Bool) (integer : List Char) (fraction : Option (List Char))
    (exponent : Option Int) : Option JsonNumber :=
  let n := integer.foldl (fun n d => n * 10 + (d.toNat - '0'.toNat)) 0
  if fraction.isNone ∧ exponent.isNone ∧
      (if negative then 0 < n ∧ n ≤ wordLimit / 2 else n < wordLimit) then
    some (.whole (if negative then -n else n))
  else
    (real? negative integer (fraction.getD []) (exponent.getD 0)).map .real

/-- The digits at the start of a text, and the rest. -/
def spanDigits (s : List Char) : List Char × List Char :=
  (s.takeWhile Char.isDigit, s.dropWhile Char.isDigit)

/-- The digits behind a point, of which there must be one, if there is a point. -/
def fraction? : List Char → Option (Option (List Char) × List Char)
  | '.' :: s =>
    let (digits, s) := spanDigits s
    if digits.isEmpty then none else some (some digits, s)
  | s => some (none, s)

/-- The exponent, with at least one digit, if there is one. -/
def exponent? (s : List Char) : Option (Option Int × List Char) :=
  let body? : Option (List Char) := match s with
    | 'e' :: s => some s
    | 'E' :: s => some s
    | _ => none
  match body? with
  | none => some (none, s)
  | some s =>
    let (negative, s) := match s with
      | '-' :: s => (true, s)
      | '+' :: s => (false, s)
      | s => (false, s)
    let (digits, s) := spanDigits s
    if digits.isEmpty then none
    else
      let n : Int := digits.foldl (fun n d => n * 10 + (d.toNat - '0'.toNat)) 0
      some (some (if negative then -n else n), s)

/-- A number. A zero before the point stands alone. -/
def number? (s : List Char) : Option (JsonNumber × List Char) := do
  let (negative, s) := match s with
    | '-' :: s => (true, s)
    | s => (false, s)
  let (integer, s) := spanDigits s
  if integer.isEmpty ∨ (integer.head? = some '0' ∧ integer.length ≠ 1) then none
  else
    let (fraction, s) ← fraction? s
    let (exponent, s) ← exponent? s
    return (← numberValue? negative integer fraction exponent, s)

/-! ## Values -/

/-- One or more items with commas between them, up to a closing bracket; at most `fuel`. -/
def sequence? {α : Type} (item : List Char → Option (α × List Char)) (close : Char) :
    (fuel : Nat) → List Char → Option (List α × List Char)
  | 0, _ => none
  | fuel + 1, s => do
    let (x, s) ← item s
    match skipBlanks s with
    | ',' :: s =>
      let (xs, s) ← sequence? item close fuel s
      return (x :: xs, s)
    | c :: s => if c = close then some ([x], s) else none
    | [] => none

/-- Items between brackets, of which the opening one is behind us. -/
def bracketed? {α : Type} (item : List Char → Option (α × List Char)) (close : Char)
    (s : List Char) : Option (List α × List Char) :=
  match skipBlanks s with
  | c :: rest =>
    if c = close then some ([], rest) else sequence? item close (c :: rest).length (c :: rest)
  | [] => none

/-- A member of an object, with a reader for its value. -/
def member? (value : List Char → Option (Json × List Char)) (s : List Char) :
    Option ((String × Json) × List Char) :=
  match skipBlanks s with
  | '"' :: s => do
    let (key, s) ← stringRest? s
    match skipBlanks s with
    | ':' :: s =>
      let (v, s) ← value s
      return ((String.ofList key, v), s)
    | _ => none
  | _ => none

/-- A value with containers nested at most `depth` deep. -/
def value? : (depth : Nat) → List Char → Option (Json × List Char)
  | depth, s =>
    match skipBlanks s with
    | 'n' :: 'u' :: 'l' :: 'l' :: s => some (.null, s)
    | 't' :: 'r' :: 'u' :: 'e' :: s => some (.bool true, s)
    | 'f' :: 'a' :: 'l' :: 's' :: 'e' :: s => some (.bool false, s)
    | '"' :: s => (stringRest? s).map fun (cs, s) => (.string (String.ofList cs), s)
    | '[' :: s =>
      match depth with
      | 0 => none
      | depth + 1 => (bracketed? (value? depth) ']' s).map fun (items, s) => (.array items, s)
    | '\x7b' :: s =>
      match depth with
      | 0 => none
      | depth + 1 =>
        (bracketed? (member? (value? depth)) '\x7d' s).map fun (members, s) => (.object members, s)
    | s => (number? s).map fun (n, s) => (.number n, s)

/-- The deepest nesting of containers that is read. -/
def maxDepth : Nat := 127

/-- The value that a text spells, as it is written. -/
def parseChars? (s : List Char) : Option Json :=
  match value? maxDepth s with
  | some (j, rest) => if (skipBlanks rest).isEmpty then some j else none
  | none => none

/-- The value that a text spells, as it is written. -/
def parse? (s : String) : Option Json := parseChars? s.toList

/-- The canonical value that a text spells. -/
def ofText? (s : String) : Option Json := (parse? s).map canonical

end DeviceSecurity.Json
