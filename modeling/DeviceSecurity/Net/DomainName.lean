import DeviceSecurity.Net.DomainMapping
import DeviceSecurity.Net.Punycode
import DeviceSecurity.Text.Basic
import DeviceSecurity.Text.Composition
import DeviceSecurity.Text.Direction
import DeviceSecurity.Text.Joining
import DeviceSecurity.Text.Mark

/-!
# International domain names

A domain name may be written with any characters, but travels in ASCII. `toAscii?` maps each
character to what it stands for, composes letters with their marks, and writes each label that is
not ASCII in Punycode behind `xn--`. A name is refused when it holds a character that no domain may
hold, when a label does not follow the rules for labels (`isLabel`), when a label that begins with
`xn--` does not stand for one that follows them, or when some label is written from the right and
the directions in one label are mixed (`keepsDirection`).
-/

namespace DeviceSecurity.DomainName

/-! ## Characters -/

/-- The ASCII characters that no domain may hold: those that end or divide an address, the space
and the controls. -/
def isForbidden (c : Char) : Bool :=
  c ≤ ' ' || c == '\x7f' || "%#/:<>?@[\\]^|".toList.contains c

/-- What a character stands for in a name. -/
def mapChar? (c : Char) : Option (List Char) :=
  if c.toNat < 128 then some [c.toLower]
  else if Text.inRanges ignoredRanges c.toNat then some []
  else if Text.inRanges refusedRanges c.toNat then none
  else some (((mapped? c.toNat).map fun l => l.map Char.ofNat).getD [c])

/-- A name with all its characters mapped and composed. -/
def mapName? (name : List Char) : Option (List Char) := do
  let name := Text.compose (← name.mapM mapChar?).flatten
  if name.any isForbidden then none else some name

/-! ## Labels -/

/-- Whether the characters that keep letters apart or together stand where they make a difference:
behind the mark of a lost vowel or, for the one that keeps apart, between letters that would join.
The characters before are given from the last to the first. -/
def joinersFit (before : List Char) : List Char → Bool
  | [] => true
  | c :: rest =>
    let fits :=
      if c == '\u200c' || c == '\u200d' then
        match before with
        | [] => false
        | last :: _ =>
          Text.combiningClass last == Text.viramaClass ||
            (c == '\u200c' &&
              (before.dropWhile Text.isJoiningTransparent).head?.any Text.joinsForward &&
              (rest.dropWhile Text.isJoiningTransparent).head?.any Text.joinsBack)
      else true
    fits && joinersFit (c :: before) rest

/-- The most characters of a label that is written in Punycode. -/
def maxLabel : Nat := 1000

/-- The most characters behind the marker of a label in Punycode. -/
def maxEncoded : Nat := 2000

/-- Whether a label holds ASCII characters only. -/
def isAscii (label : List Char) : Bool := label.all (·.toNat < 128)

/-- Whether a label follows the rules: no mark begins it, its joiners fit, and it is not too
long. -/
def isLabel (label : List Char) : Bool :=
  !(label.head?.any Text.isMark) && joinersFit [] label &&
    (isAscii label || label.length ≤ maxLabel)

/-- What an encoded label begins with. -/
def marker : List Char := ['x', 'n', '-', '-']

/-- The label that stands encoded behind the marker. It is not ASCII, does not begin with the
marker itself, and is what mapping and composing make of it. -/
def decoded? (encoded : List Char) : Option (List Char) := do
  if maxEncoded < encoded.length then none
  let label ← Punycode.decode? encoded
  if isAscii label || marker.isPrefixOf label then none
  if label.all (fun c => mapChar? c == some [c]) && Text.compose label == label && isLabel label
  then some label else none

/-- A mapped label as it is read and as it is written in ASCII. -/
def readLabel? (label : List Char) : Option (List Char × List Char) :=
  if marker.isPrefixOf label then
    if isAscii label then (decoded? (label.drop marker.length)).map (·, label) else none
  else if isAscii label then some (label, label)
  else if isLabel label then some (label, marker ++ Punycode.encode label)
  else none

/-! ## Directions -/

/-- Whether a character is written from the right, as a letter or as a number. -/
def isFromRight (c : Char) : Bool :=
  Text.direction c == .right || Text.direction c == .arabicNumber

/-- Whether a label keeps to the direction of its first character, which must have one: it ends,
marks aside, in that direction or in a number, and does not mix two kinds of numbers when it is
written from the right. -/
def keepsDirection (label : List Char) : Bool :=
  match label.map Text.direction with
  | [] => true
  | first :: rest =>
    let last? := (rest.reverse.dropWhile (· == .mark)).head?
    match first with
    | .left =>
      rest.all (fun d => d == .left || d == .europeanNumber || d == .neutral || d == .mark) &&
        last?.all fun d => d == .left || d == .europeanNumber
    | .right =>
      rest.all (fun d => d != .left && d != .control) && last?.all (· != .neutral) &&
        !(rest.contains .europeanNumber && rest.contains .arabicNumber)
    | _ => false

/-! ## Names -/

/-- The ASCII form of a name. -/
def toAscii? (name : List Char) : Option (List Char) := do
  let labels ← (Text.splitAt '.' (← mapName? name)).mapM readLabel?
  if labels.any (·.1.any isFromRight) && !labels.all (keepsDirection ·.1) then none
  return List.intercalate ['.'] (labels.map (·.2))

end DeviceSecurity.DomainName
