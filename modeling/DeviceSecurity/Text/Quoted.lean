import DeviceSecurity.Text.Printable

/-!
# Quoted texts

`quote` writes a text between double quotes, as diagnostics show it: quotes, backslashes and the
controls NUL, tab, line feed and carriage return get a backslash form, and every other character
that would not show as itself is written as `\\u` with its code point in braces.
-/

namespace DeviceSecurity.Text

/-- The lower-case hexadecimal digits of a number, at least one. -/
def hexNumber (n : Nat) : List Char := Nat.toDigits 16 n

/-- How one character is written inside a quoted text. -/
def quoteChar (c : Char) : List Char :=
  if c = '\\' then ['\\', '\\']
  else if c = '"' then ['\\', '"']
  else if c = '\x00' then ['\\', '0']
  else if c = '\t' then ['\\', 't']
  else if c = '\n' then ['\\', 'n']
  else if c = '\r' then ['\\', 'r']
  else if isCombining c || isUnprintable c then
    ['\\', 'u', '\x7b'] ++ hexNumber c.toNat ++ ['\x7d']
  else [c]

/-- A text between double quotes. -/
def quote (s : String) : String :=
  String.ofList ('"' :: s.toList.flatMap quoteChar ++ ['"'])

/-- A list of texts, each quoted, between square brackets. -/
def quoteList (texts : List String) : String :=
  "[" ++ String.intercalate ", " (texts.map quote) ++ "]"

end DeviceSecurity.Text
