import DeviceSecurity.Base64
import DeviceSecurity.Text.Basic

/-!
# Certificates in text

A text may hold certificates in base64, each between a line that begins it and a line that ends
it. Blocks with other labels and lines outside of blocks are skipped, and so is a block whose
base64 is faulty or that does not end. The base64 may lack its padding.
-/

namespace DeviceSecurity.Pem

/-- A text cut into lines at every line feed and carriage return. -/
def lines (text : String) : List (List Char) :=
  text.toList.splitBy (fun a b => !(isBreak a || isBreak b)) |>.filter fun line =>
    !(line.head?.map isBreak).getD false
where
  isBreak (c : Char) : Bool := c == '\n' || c == '\r'

/-- The label of a line that begins a block. Five hyphens must end the line, and spaces may stand
after and between them; the label reaches to the first of them. -/
def beginLabel? (line : List Char) : Option (Option (List Char)) :=
  let start := "-----BEGIN ".toList
  if start.isPrefixOf line then
    let ending := (line.reverse.takeWhile fun c => c == '-' || c == ' ').reverse
    let hyphens := ending.dropWhile (· == ' ')
    let label := (line.take (line.length - hyphens.length)).drop start.length
    some (if hyphens.count '-' = 5 then some label else none)
  else none

/-- Whether a line ends a block. -/
def endsBlock (label line : List Char) : Bool :=
  ("-----END ".toList ++ label ++ "-----".toList).isPrefixOf line

/-- The label of certificates. -/
def certificateLabel : List Char := "CERTIFICATE".toList

/-- The bytes of a block's lines, whose ASCII blanks do not matter. -/
def decode? (body : List (List Char)) : Option Bytes :=
  let symbols := body.flatten.filter fun c => !(c.toNat < 0x80 && Text.isBlank c)
  Base64.Variant.standard.looseBytes? (Bytes.ofText (String.ofList symbols))

/-- Goes through lines inside or outside of a block, whose label and lines so far, last first, are
`open?`. -/
def scan : (open? : Option (List Char × List (List Char))) → List (List Char) → List Bytes
  | _, [] => []
  | open?, line :: rest =>
    match beginLabel? line with
    | some (some label) => scan (some (label, (open?.map (·.2)).getD [])) rest
    | some none => scan none rest
    | none =>
      match open? with
      | none => scan none rest
      | some (label, body) =>
        if endsBlock label line then
          if label = certificateLabel then (decode? body.reverse).toList ++ scan none rest
          else scan none rest
        else scan (some (label, line :: body)) rest

/-- The certificates in a text. -/
def certificates (text : String) : List Bytes := scan none (lines text)

end DeviceSecurity.Pem
