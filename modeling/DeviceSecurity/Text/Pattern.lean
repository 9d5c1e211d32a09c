import DeviceSecurity.Bytes
import DeviceSecurity.Text.Alphanumeric

/-!
# Patterns

A pattern is a regular expression, and `isPattern` tells whether a text is one. Patterns group
with brackets of three kinds, but a counted repetition is no part of them: an opening brace stands
for itself only behind a backslash or in a class. The ends of words cannot be told apart by the
automata that patterns become, so they may not be asked for.
-/

namespace DeviceSecurity.Text.Pattern

/-- What a part of a pattern stands for. -/
inductive Part where
  | char (code : Nat)
  /-- One of several characters. -/
  | set
  /-- A place between characters. -/
  | place
deriving DecidableEq, Repr

/-- A character by the number that hexadecimal digits spell, and the rest. -/
def hex? (digits : Nat) (s : List Char) : Option (Part × List Char) := do
  let code ← (s.take digits).foldlM (fun n c => return n * 16 + (← Bytes.hexValue? c)) 0
  if (s.take digits).length = digits ∧ code.isValidChar then
    some (.char code, s.drop digits)
  else none

/-- The part that follows a backslash, and the rest. -/
def escape? : List Char → Option (Part × List Char)
  | [] => none
  | c :: s =>
    if c == 'x' then hex? 2 s
    else if c == 'u' then hex? 4 s
    else if c == 'U' then hex? 8 s
    else if "dDsSwW".contains c then some (.set, s)
    else if c == 'p' || c == 'P' then
      match s with
      | property :: s => if "LMNPSZC".contains property.toUpper then some (.set, s) else none
      | [] => none
    else if c == 'A' || c == 'z' then some (.place, s)
    else if c == 'a' then some (.char 0x7, s)
    else if c == 'f' then some (.char 0xc, s)
    else if c == 't' then some (.char 0x9, s)
    else if c == 'n' then some (.char 0xa, s)
    else if c == 'r' then some (.char 0xd, s)
    else if c == 'v' then some (.char 0xb, s)
    else if c.toNat < 0x80 && !c.isAlphanum && c != '<' && c != '>' then some (.char c.toNat, s)
    else none

/-! ## Classes -/

/-- A member of a class, and the rest. -/
def member? : List Char → Option (Part × List Char)
  | [] => none
  | '\\' :: s =>
    match escape? s with
    | some (.place, _) => none
    | part => part
  | c :: s => some (.char c.toNat, s)

/-- The rest behind a member of a class or a range of members, whose ends are in order. -/
def range? (s : List Char) : Option (List Char) := do
  let (first, s) ← member? s
  match s with
  | '-' :: ']' :: _ => some s
  | '-' :: '-' :: _ => some s
  | '-' :: s =>
    match first, ← member? s with
    | .char a, (.char b, s) => if a ≤ b then some s else none
    | _, _ => none
  | _ => some s

/-- The rest behind what may stand only at the start of a class: a mark that inverts it, hyphens,
and, without hyphens, a closing bracket. -/
def opened (s : List Char) : List Char :=
  let s := match s with
    | '^' :: s => s
    | s => s
  match s with
  | ']' :: s => s
  | s => s.dropWhile (· == '-')

/-- The rest behind classes of which `depth` are open; at most `fuel` steps are taken. -/
def class? : (fuel : Nat) → (depth : Nat) → List Char → Option (List Char)
  | 0, _, _ => none
  | _, 0, s => some s
  | fuel + 1, depth + 1, s =>
    match s with
    | '[' :: s => class? fuel (depth + 2) (opened s)
    | ']' :: s => class? fuel depth s
    | '&' :: '&' :: s => class? fuel (depth + 1) s
    | '-' :: '-' :: s => class? fuel (depth + 1) s
    | '~' :: '~' :: s => class? fuel (depth + 1) s
    | s => do class? fuel (depth + 1) (← range? s)

/-! ## Groups -/

/-- Whether letters, maybe with a hyphen between or before them, are flags. -/
def areFlags (flags : List Char) : Bool :=
  flags.all ("-imsUuxR".contains ·) && flags.eraseDups == flags && flags.getLast? != some '-'

/-- Whether characters can name a group. -/
def isName : List Char → Bool
  | [] => false
  | c :: rest =>
    (c == '_' || isAlphanumeric c && !c.isDigit) &&
      rest.all fun c => c == '_' || c == '.' || c == '[' || c == ']' || isAlphanumeric c

/-- What stands behind the opening bracket of a group: the rest, and whether the group is still
open, which it is not if it only sets flags. -/
def group? : List Char → Option (Bool × List Char)
  | '?' :: 'P' :: '<' :: s => named? s
  | '?' :: '<' :: s => named? s
  | '?' :: s =>
    let (flags, s) := s.span fun c => c != ')' && c != ':'
    if !areFlags flags then none
    else
      match s with
      | ':' :: s => some (true, s)
      | ')' :: s => if flags.isEmpty then none else some (false, s)
      | _ => none
  | s => some (true, s)
where
  /-- The rest behind the name of a group. -/
  named? (s : List Char) : Option (Bool × List Char) :=
    let (name, s) := s.span (· != '>')
    if isName name ∧ s ≠ [] then some (true, s.drop 1) else none

/-! ## Patterns -/

/-- Whether a text is a pattern from here on. `depth` groups are open; `repeatable` tells whether
something stands before the text that can be repeated. At most `fuel` steps are taken. -/
def continues : (fuel depth : Nat) → (repeatable : Bool) → List Char → Bool
  | 0, _, _, _ => false
  | fuel + 1, depth, repeatable, s =>
    match s with
    | [] => depth == 0
    | c :: s =>
      if c == '\\' then
        match escape? s with
        | some (_, s) => continues fuel depth true s
        | none => false
      else if c == '[' then
        match class? (s.length + 1) 1 (opened s) with
        | some s => continues fuel depth true s
        | none => false
      else if c == '(' then
        match group? s with
        | some (true, s) => continues fuel (depth + 1) false s
        | some (false, s) => continues fuel depth false s
        | none => false
      else if c == ')' then depth != 0 && continues fuel (depth - 1) true s
      else if c == '|' then continues fuel depth false s
      else if c == '*' || c == '+' || c == '?' then
        repeatable && continues fuel depth true (if s.head? == some '?' then s.drop 1 else s)
      else c != '\x7b' && continues fuel depth true s

end Pattern

/-- Whether a text is a pattern. -/
def isPattern (s : List Char) : Bool := Pattern.continues (s.length + 1) 0 false s

end DeviceSecurity.Text
