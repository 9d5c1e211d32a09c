/-!
# Texts and classes of characters

A large class of characters is a table of closed ranges of code points; the characters with the
property `White_Space` are few. `trim` removes the blanks at both ends of a text, and `splitBy` cuts
a text at every character of a class, which is left out, so that there is one part more than there
are such characters.
-/

namespace DeviceSecurity.Text

/-! ## Classes -/

/-- Whether `n` lies in one of the closed ranges. -/
def inRanges (ranges : List (Nat × Nat)) (n : Nat) : Bool :=
  ranges.any fun r => r.1 ≤ n && n ≤ r.2

/-- A character with the property `White_Space`. -/
def isBlank (c : Char) : Bool :=
  let n := c.toNat
  (0x9 ≤ n && n ≤ 0xd) || n == 0x20 || n == 0x85 || n == 0xa0 || n == 0x1680 ||
    (0x2000 ≤ n && n ≤ 0x200a) || n == 0x2028 || n == 0x2029 || n == 0x202f || n == 0x205f ||
    n == 0x3000

/-! ## Ends -/

/-- `l` without the longest suffix whose members satisfy `p`. -/
def dropEndWhile (p : Char → Bool) (l : List Char) : List Char :=
  (l.reverse.dropWhile p).reverse

/-- `l` without the longest prefix and suffix whose members satisfy `p`. -/
def trimBy (p : Char → Bool) (l : List Char) : List Char :=
  dropEndWhile p (l.dropWhile p)

/-- A text without the blanks at its ends. -/
def trim (s : String) : String := String.ofList (trimBy isBlank s.toList)

/-- A text without the given character at its end. -/
def trimEnd (c : Char) (s : String) : String := String.ofList (dropEndWhile (· == c) s.toList)

/-! ## Letter case -/

/-- A text with its ASCII capitals made small. -/
def lower (s : String) : String := String.ofList (s.toList.map Char.toLower)

/-- Whether two texts differ only in the case of ASCII letters. -/
def sameLower (a b : String) : Bool := a.toList.map Char.toLower == b.toList.map Char.toLower

/-! ## Parts -/

/-- The parts of a text between the characters that satisfy `p`. -/
def splitBy (p : Char → Bool) : List Char → List (List Char)
  | [] => [[]]
  | c :: rest =>
    if p c then [] :: splitBy p rest
    else
      match splitBy p rest with
      | first :: more => (c :: first) :: more
      | [] => [[c]]

/-- The parts of a text between the occurrences of a character. -/
def splitAt (separator : Char) : List Char → List (List Char) := splitBy (· == separator)

/-- The parts before and behind the first character that satisfies `p`, which begins the second
part. -/
def cut (p : Char → Bool) (s : List Char) : List Char × List Char :=
  (s.takeWhile fun c => !p c, s.dropWhile fun c => !p c)

end DeviceSecurity.Text
