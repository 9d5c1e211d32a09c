import DeviceSecurity.Error
import DeviceSecurity.Text.Folding

/-!
# Hosts and common names

A host matches a common name that differs from it in letter case at most. One star at the start of
a common name stands for any characters, at least one, none of which ends a line.

A common name is compared as a pattern, for which two automata are built that read UTF-8 byte by
byte, one forward and one backward. Neither may be larger than ten mebibytes: a name for which one
would be, some hundred thousand letters, is an error whatever the host.
-/

namespace DeviceSecurity.HostName

/-! ## Comparison -/

/-- Whether a host matches a common name, both as characters. -/
def matchesChars (commonName host : List Char) : Bool :=
  match commonName with
  | '*' :: rest =>
    let covered := host.length - rest.length
    rest.length < host.length && !(host.take covered).contains '\n' &&
      Text.sameFolded (host.drop covered) rest
  | _ => Text.sameFolded host commonName

/-! ## Classes of characters -/

/-- The lowest and the highest of the bytes that stand at one place. -/
abbrev ByteRange := UInt8 × UInt8

/-- A class of characters: the sequences of bytes that it contains, each sequence of ranges for
the bytes that lie in them place by place. -/
abbrev ByteClass := List (List ByteRange)

/-- Two sequences in a row as one, if they differ in the last byte only and no byte is missing
between them. -/
def join? : List ByteRange → List ByteRange → Option (List ByteRange)
  | [a], [b] => if a.2 + 1 = b.1 then some [(a.1, b.2)] else none
  | a :: before, b :: behind => if a = b then (join? before behind).map (a :: ·) else none
  | _, _ => none

/-- The class of characters in ascending order. -/
def classOf : List Char → ByteClass
  | [] => []
  | c :: rest =>
    let sequence := (String.utf8EncodeChar c).map fun b => (b, b)
    match classOf rest with
    | [] => [sequence]
    | next :: others =>
      match join? sequence next with
      | some joined => joined :: others
      | none => sequence :: next :: others

/-- Every character that does not end a line. -/
def lineClass : ByteClass := [
    [(0x00, 0x09)], [(0x0b, 0x7f)], [(0xc2, 0xdf), (0x80, 0xbf)],
    [(0xe0, 0xe0), (0xa0, 0xbf), (0x80, 0xbf)], [(0xe1, 0xec), (0x80, 0xbf), (0x80, 0xbf)],
    [(0xed, 0xed), (0x80, 0x9f), (0x80, 0xbf)], [(0xee, 0xef), (0x80, 0xbf), (0x80, 0xbf)],
    [(0xf0, 0xf0), (0x90, 0xbf), (0x80, 0xbf), (0x80, 0xbf)],
    [(0xf1, 0xf3), (0x80, 0xbf), (0x80, 0xbf), (0x80, 0xbf)],
    [(0xf4, 0xf4), (0x80, 0x8f), (0x80, 0xbf), (0x80, 0xbf)]]

/-- The ranges that sequences of a class begin with. -/
def heads (k : ByteClass) : List ByteRange := (k.filterMap List.head?).eraseDups

/-- What follows a range at the start of a sequence. -/
def tails (k : ByteClass) (r : ByteRange) : ByteClass :=
  k.filterMap fun sequence => if sequence.head? = some r then some sequence.tail else none

/-- What is still to be read in the states of an automaton for sequences of at most `length` bytes,
but for the state in which nothing is. -/
def residuals : (length : Nat) → ByteClass → List ByteClass
  | 0, _ => []
  | length + 1, k =>
    if (heads k).isEmpty then []
    else k :: (heads k).flatMap fun r => residuals length (tails k r)

/-- What has been read of a sequence, from one range on. -/
def starts (sequence : List ByteRange) : List (List ByteRange) :=
  (List.range sequence.length).map fun i => sequence.take (i + 1)

/-! ## Sizes -/

/-- The bytes of a state. A state that reads a byte in several ways has eight more for each way,
and a state that goes on in several ways without reading four more for each. -/
def stateSize : Nat := 32

/-- The size of several parts. -/
def total (sizes : List Nat) : Nat := sizes.foldr (· + ·) 0

/-- The size for a class, read forward: states with the same ways to go on are one. -/
def forwardSize (k : ByteClass) : Nat :=
  stateSize + total ((residuals 4 k).eraseDups.map fun k => stateSize + 8 * (heads k).length)

/-- The size for a class, read backward: sequences share the states of a common start. In ASCII
the direction makes no difference. -/
def backwardSize (k : ByteClass) : Nat :=
  if k.all (·.length == 1) then forwardSize k
  else 2 * stateSize + 4 * k.length + stateSize * (k.flatMap starts).eraseDups.length

/-- The size for the characters that may stand at one place, where `classSize` is that for a class.
A single one is no class, but the sequence of its bytes. -/
def placeSize (classSize : ByteClass → Nat) : List Char → Nat
  | [c] => stateSize * (String.utf8EncodeChar c).length
  | chars => classSize (classOf chars)

/-- The size for one character in any case. -/
def charSize (classSize : ByteClass → Nat) (c : Char) : Nat :=
  placeSize classSize (Text.caseMates c)

/-- The size for a common name, with that of the states around it. -/
def nameSize (around : Nat) (classSize : ByteClass → Nat) : (commonName : List Char) → Nat
  | '*' :: rest =>
    around + (classSize lineClass + stateSize + 2 * 4) + total (rest.map (charSize classSize))
  | name => around + total (name.map (charSize classSize))

/-- The most bytes that an automaton may take. -/
def sizeLimit : Nat := 10 * 1024 * 1024

/-- Whether both automata for a common name can be built. Around the name stand a start, both ends
of the text and a match; the one that reads forward has both ends of the match as well. -/
def canBuild (commonName : List Char) : Bool :=
  nameSize (6 * stateSize) forwardSize commonName ≤ sizeLimit &&
    nameSize (4 * stateSize) backwardSize commonName ≤ sizeLimit

/-- The error for a common name of which the automata cannot be built. -/
def tooLarge : Error :=
  .hostMismatch
    s!"bad common name pattern: Compiled regex exceeds size limit of {sizeLimit} bytes."

/-- Whether a host matches a common name. -/
def matchesName (commonName host : String) : Except Error Bool :=
  if canBuild commonName.toList then .ok (matchesChars commonName.toList host.toList)
  else .error tooLarge

variable {commonName host : String} {b : Bool} {e : Error}

theorem matchesName_eq_ok : matchesName commonName host = .ok b ↔
    canBuild commonName.toList ∧ matchesChars commonName.toList host.toList = b := by
  unfold matchesName
  cases canBuild commonName.toList <;> simp

theorem matchesName_eq_error : matchesName commonName host = .error e ↔
    ¬canBuild commonName.toList ∧ e = tooLarge := by
  unfold matchesName
  cases canBuild commonName.toList <;> simp [eq_comm]

end DeviceSecurity.HostName
