import DeviceSecurity.Json.Basic

/-!
# Writing JSON

`Json.text` writes a value without blanks. Strings escape the quote, the backslash and the
controls below the space, with a short form where JSON has one. A floating point number is its
shortest decimal, always with a point or an exponent: positional when the first digit stands for
`10^-5` to `10^15`, otherwise with an exponent that carries its sign.
-/

namespace DeviceSecurity.Json

/-! ## Strings -/

/-- A lower-case hexadecimal digit. -/
def hexDigit (n : Nat) : Char := (Nat.digitChar n)

/-- How one character is written inside a string. -/
def escape (c : Char) : List Char :=
  if c = '"' then ['\\', '"']
  else if c = '\\' then ['\\', '\\']
  else if c = '\x08' then ['\\', 'b']
  else if c = '\x0c' then ['\\', 'f']
  else if c = '\n' then ['\\', 'n']
  else if c = '\r' then ['\\', 'r']
  else if c = '\t' then ['\\', 't']
  else if c < ' ' then ['\\', 'u', '0', '0', hexDigit (c.toNat / 16), hexDigit (c.toNat % 16)]
  else [c]

/-- A string between quotes. -/
def stringChars (s : String) : List Char := '"' :: s.toList.flatMap escape ++ ['"']

/-! ## Numbers -/

/-- The digits of a natural number. -/
def natChars (n : Nat) : List Char := Nat.toDigits 10 n

/-- A whole number. -/
def intChars : Int → List Char
  | .ofNat n => natChars n
  | .negSucc n => '-' :: natChars (n + 1)

/-- A decimal in positional notation or with an exponent. -/
def scientificChars (s : Scientific) : List Char :=
  let digits := natChars s.digits
  let power := s.exponent + digits.length - 1
  if -5 ≤ power ∧ power ≤ 15 then
    if 0 ≤ s.exponent then digits ++ List.replicate s.exponent.toNat '0' ++ ['.', '0']
    else if 0 ≤ power then
      digits.take (power.toNat + 1) ++ '.' :: digits.drop (power.toNat + 1)
    else '0' :: '.' :: List.replicate (-power - 1).toNat '0' ++ digits
  else
    let head := match digits with
      | d :: e :: rest => d :: '.' :: e :: rest
      | short => short
    head ++ 'e' :: (if power < 0 then '-' else '+') :: natChars power.natAbs

/-- A number. -/
def numberChars : JsonNumber → List Char
  | .whole n => intChars n
  | .real x =>
    (if x.negative then ['-'] else []) ++
      if x.isZero then ['0', '.', '0'] else scientificChars x.shortest

/-! ## Values -/

mutual

/-- The characters of a value. -/
def chars : Json → List Char
  | null => ['n', 'u', 'l', 'l']
  | bool true => ['t', 'r', 'u', 'e']
  | bool false => ['f', 'a', 'l', 's', 'e']
  | number n => numberChars n
  | string s => stringChars s
  | array items => '[' :: itemChars items ++ [']']
  | object members => '\x7b' :: memberChars members ++ ['\x7d']

/-- The characters of items, with commas between them. -/
def itemChars : List Json → List Char
  | [] => []
  | [item] => chars item
  | item :: rest => chars item ++ ',' :: itemChars rest

/-- The characters of members, with commas between them. -/
def memberChars : List (String × Json) → List Char
  | [] => []
  | [(key, value)] => stringChars key ++ ':' :: chars value
  | (key, value) :: rest => stringChars key ++ ':' :: chars value ++ ',' :: memberChars rest

end

/-- The text of a value. -/
def text (j : Json) : String := String.ofList j.chars

end DeviceSecurity.Json
