import DeviceSecurity.Error
import DeviceSecurity.Json.Parser
import DeviceSecurity.Json.Printer
import DeviceSecurity.Json.Skip
import DeviceSecurity.Text.Quoted

/-!
# Reading records

Readers turn a JSON value, as it is written, into a value of the program, and say what is wrong
with one that does not fit. They stop at the first fault in the order of the text. A record is
written as an object, whose unknown members are skipped, or as an array of its fields in order.
-/

namespace DeviceSecurity.Json

/-- Why a value does not fit. The texts `found` and `expected` describe values. -/
inductive Misfit where
  | invalidType (found expected : String)
  | invalidValue (found expected : String)
  | missingField (name : String)
  | duplicateField (name : String)
  | unknownVariant (found : String) (known : List String)
  | invalidLength (length : Nat) (expected : String)
  /-- More items than a record has fields. -/
  | trailingItems
  /-- A value that cannot name a variant. -/
  | expectedValue
  /-- A text that a more special reader refuses. -/
  | refused (message : String)
deriving DecidableEq, Repr

/-- The names of variants as a message lists them. -/
def listVariants : List String → String
  | [] => "there are no variants"
  | [a] => "expected " ++ tick a
  | [a, b] => "expected " ++ tick a ++ " or " ++ tick b
  | names => "expected one of " ++ String.intercalate ", " (names.map tick)
where
  tick (s : String) : String := "\x60" ++ s ++ "\x60"

/-- What stands before a mark and a number of 64 bits at the end of a text, both written
backwards. -/
def dropNumber? (mark : String) (backwards : List Char) : Option (List Char) :=
  let (digits, rest) := spanDigits backwards
  let value := digits.reverse.foldl (fun n d => n * 10 + (d.toNat - '0'.toNat)) 0
  let mark := mark.toList.reverse
  if digits.isEmpty ∨ wordLimit ≤ value then none
  else if mark.isPrefixOf rest then some (rest.drop mark.length)
  else none

/-- A message without the position that ends it. Messages are stored with the position of their
fault behind them and given out without it, whoever put it there. -/
def withoutPosition (message : String) : String :=
  let before? := (dropNumber? " column " message.toList.reverse).bind (dropNumber? " at line ")
  match before? with
  | some before => String.ofList before.reverse
  | none => message

/-- The text of a misfit. -/
def Misfit.message : Misfit → String
  | invalidType found expected => "invalid type: " ++ found ++ ", expected " ++ expected
  | invalidValue found expected => "invalid value: " ++ found ++ ", expected " ++ expected
  | missingField name => "missing field \x60" ++ name ++ "\x60"
  | duplicateField name => "duplicate field \x60" ++ name ++ "\x60"
  | unknownVariant found known => "unknown variant \x60" ++ found ++ "\x60, " ++ listVariants known
  | invalidLength length expected =>
    "invalid length " ++ toString length ++ ", expected " ++ expected
  | trailingItems => "trailing characters"
  | expectedValue => "expected value"
  | refused message => withoutPosition message

/-- A reader of values. -/
abbrev Reader (α : Type) := Json → Except Misfit α

/-- What a value is, as a message says it. -/
def description : Json → String
  | null => "null"
  | bool b => "boolean \x60" ++ (if b then "true" else "false") ++ "\x60"
  | number (.whole n) => "integer \x60" ++ toString n ++ "\x60"
  | number n => "floating point \x60" ++ String.ofList (numberChars n) ++ "\x60"
  | string s => "string " ++ Text.quote s
  | array _ => "sequence"
  | object _ => "map"

/-- The misfit of a value of the wrong type. -/
def wrongType {α : Type} (j : Json) (expected : String) : Except Misfit α :=
  .error (.invalidType j.description expected)

/-! ## Simple values -/

/-- A text. -/
def readString : Reader String
  | string s => .ok s
  | j => wrongType j "a string"

/-- A truth value. -/
def readBool : Reader Bool
  | bool b => .ok b
  | j => wrongType j "a boolean"

/-- A natural number of 64 bits. -/
def readWord : Reader Nat
  | number (.whole n) =>
    if 0 ≤ n then .ok n.toNat else .error (.invalidValue (description (number (.whole n))) "u64")
  | j => wrongType j "u64"

/-- A value that may be null. -/
def readOptional {α : Type} (reader : Reader α) : Reader (Option α)
  | null => .ok none
  | j => some <$> reader j

/-- A list. -/
def readList {α : Type} (reader : Reader α) : Reader (List α)
  | array items => items.mapM reader
  | j => wrongType j "a sequence"

/-- A map from texts; the last of several equal keys wins, and the keys are sorted. -/
def readMap {α : Type} (reader : Reader α) : Reader (Members α)
  | object members => members.foldlM (fun map m => return map.insert m.1 (← reader m.2)) []
  | j => wrongType j "a map"

/-- One of several named variants: the name, or an object from the name to null. -/
def readVariant {α : Type} (variants : List (String × α)) : Reader α
  | string s => byName s
  | object ((key, value) :: rest) => do
    let a ← byName key
    match value, rest with
    | null, [] => return a
    | null, _ :: _ => throw .expectedValue
    | j, _ => wrongType j "unit"
  | _ => .error .expectedValue
where
  byName (s : String) : Except Misfit α :=
    match variants.find? (·.1 == s) with
    | some v => .ok v.2
    | none => .error (.unknownVariant s (variants.map (·.1)))

/-! ## Records -/

/-- A field of a record: its name and how its value updates a record under construction. -/
structure Field (σ : Type) where
  name : String
  read : Json → σ → Except Misfit σ

/-- Reads members in the order of the text into a record, with the names of the fields seen. -/
def readMembers {σ : Type} (fields : List (Field σ)) :
    (members : List (String × Json)) → (seen : List String) → σ → Except Misfit (List String × σ)
  | [], seen, record => .ok (seen, record)
  | (key, value) :: rest, seen, record =>
    match fields.find? (·.name == key) with
    | none => readMembers fields rest seen record
    | some field => do
      if seen.contains key then throw (.duplicateField key)
      readMembers fields rest (key :: seen) (← field.read value record)

/-- Reads items as the fields in order, and counts those read. -/
def readItems {σ : Type} : (fields : List (Field σ)) → (items : List Json) → (count : Nat) → σ →
    Except Misfit (Nat × σ)
  | [], [], count, record => .ok (count, record)
  | [], _ :: _, _, _ => .error .trailingItems
  | _ :: _, [], count, record => .ok (count, record)
  | field :: fields, item :: items, count, record => do
    readItems fields items (count + 1) (← field.read item record)

/-- A record whose absent fields keep the values of `defaults`. -/
def readRecord {σ : Type} (name : String) (fields : List (Field σ)) (defaults : σ) : Reader σ
  | object members => (·.2) <$> readMembers fields members [] defaults
  | array items => (·.2) <$> readItems fields items 0 defaults
  | j => wrongType j ("struct " ++ name)

/-- A record all of whose fields must be there; `blank` is what they are read into. -/
def readFullRecord {σ : Type} (name : String) (fields : List (Field σ)) (blank : σ) : Reader σ
  | object members => do
    let (seen, record) ← readMembers fields members [] blank
    match fields.find? fun f => !seen.contains f.name with
    | some f => throw (.missingField f.name)
    | none => return record
  | array items => do
    let (count, record) ← readItems fields items 0 blank
    if count < fields.length then
      throw (.invalidLength count s!"struct {name} with {fields.length} elements")
    return record
  | j => wrongType j ("struct " ++ name)

/-! ## Texts -/

/-- What stands for the report of a text that is no JSON. -/
def notJson : String := "<json>"

/-- Reads a record from a text by a reader that knows the given fields, or gives the message of
the first fault. Where the text is no JSON only because of members that are skipped it is read all
the same, but its faults are reported as those of a text that is no JSON. -/
def readText {α : Type} (reader : Reader α) (known : List String) (text : String) :
    Except String α :=
  match parse? text with
  | some j =>
    match reader j with
    | .ok a => .ok a
    | .error misfit => .error misfit.message
  | none =>
    match (recordOfText? known text).map reader with
    | some (.ok a) => .ok a
    | _ => .error notJson

end DeviceSecurity.Json
