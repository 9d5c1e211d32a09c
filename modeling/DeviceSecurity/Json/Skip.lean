import DeviceSecurity.Json.Parser

/-!
# Skipping members

A record is read from an object by the members that it knows; the values of all others are
skipped. Skipping checks the shape of a value only: containers may nest to any depth, a number may
exceed every range, and an escaped code unit may be half of a pair.
-/

namespace DeviceSecurity.Json

/-- The text behind a string whose opening quote is behind us. -/
def skipString? : List Char → Option (List Char)
  | [] => none
  | '"' :: s => some s
  | '\\' :: 'u' :: a :: b :: c :: d :: s => do
    let _ ← unit? a b c d
    skipString? s
  | '\\' :: c :: s => do
    let _ ← shortEscape? c
    skipString? s
  | c :: s => if c < ' ' ∨ c = '\\' then none else skipString? s

/-- The text behind a number. -/
def skipNumber? (s : List Char) : Option (List Char) := do
  let s := match s with
    | '-' :: s => s
    | s => s
  let (integer, s) := spanDigits s
  if integer.isEmpty ∨ (integer.head? = some '0' ∧ integer.length ≠ 1) then none
  let (_, s) ← fraction? s
  let (_, s) ← exponent? s
  return s

/-- The text behind a value with containers nested at most `depth` deep. -/
def skipValue? : (depth : Nat) → List Char → Option (Unit × List Char)
  | depth, s =>
    match skipBlanks s with
    | 'n' :: 'u' :: 'l' :: 'l' :: s => some ((), s)
    | 't' :: 'r' :: 'u' :: 'e' :: s => some ((), s)
    | 'f' :: 'a' :: 'l' :: 's' :: 'e' :: s => some ((), s)
    | '"' :: s => (skipString? s).map ((), ·)
    | '[' :: s =>
      match depth with
      | 0 => none
      | depth + 1 => (bracketed? (skipValue? depth) ']' s).map fun (_, s) => ((), s)
    | '\x7b' :: s =>
      match depth with
      | 0 => none
      | depth + 1 =>
        (bracketed? (fun s =>
          match skipBlanks s with
          | '"' :: s => do
            match skipBlanks (← skipString? s) with
            | ':' :: s => skipValue? depth s
            | _ => none
          | _ => none) '\x7d' s).map fun (_, s) => ((), s)
    | s => (skipNumber? s).map ((), ·)

/-- A member of a record: its value, or null in place of the value of a name that is not known. -/
def recordMember? (known : List String) (s : List Char) : Option ((String × Json) × List Char) :=
  match skipBlanks s with
  | '"' :: s => do
    let (key, s) ← stringRest? s
    let key := String.ofList key
    match skipBlanks s with
    | ':' :: s =>
      if known.contains key then
        let (v, s) ← value? (maxDepth - 1) s
        return ((key, v), s)
      else
        -- a text nests no deeper than it is long
        let (_, s) ← skipValue? s.length s
        return ((key, .null), s)
    | _ => none
  | _ => none

/-- The object that a text spells, of which only the known members are read. -/
def recordOfText? (known : List String) (text : String) : Option Json :=
  match skipBlanks text.toList with
  | '\x7b' :: s =>
    match bracketed? (recordMember? known) '\x7d' s with
    | some (members, rest) => if (skipBlanks rest).isEmpty then some (.object members) else none
    | none => none
  | _ => none

end DeviceSecurity.Json
