import DeviceSecurity.Decimal.Shortest

/-!
# JSON values

A value as it is written lists the members of an object in the order of the text, repeated ones
included. A canonical value has the members of every object sorted by key, each key once:
`canonical` brings any value into this form, letting the last of several equal keys win. Numbers
are whole when they are written whole and fit 64 bits, and binary floating point otherwise.
-/

namespace DeviceSecurity

/-- A number of a JSON text. -/
inductive JsonNumber where
  /-- From `-2^63` to `2^64 - 1`. -/
  | whole (value : Int)
  | real (value : Binary64)
deriving DecidableEq, Repr

/-- A JSON value. -/
inductive Json where
  | null
  | bool (value : Bool)
  | number (value : JsonNumber)
  | string (value : String)
  | array (items : List Json)
  | object (members : List (String × Json))
deriving Repr

namespace Json

/-- Named values, as the members of an object are. -/
abbrev Members (α : Type) := List (String × α)

/-- Whether a value is an object. -/
def isObject : Json → Bool
  | object _ => true
  | _ => false

/-- The names of the members of an object. -/
def memberNames : Json → List String
  | object members => members.map (·.1)
  | _ => []

/-! ## Members in order -/

/-- The value of a key. -/
def Members.get? {α : Type} (members : Members α) (key : String) : Option α :=
  (members.find? fun m => m.1 == key).map (·.2)

/-- Puts a member into a list sorted by key, in place of one with the same key. -/
def Members.insert {α : Type} (key : String) (value : α) : Members α → Members α
  | [] => [(key, value)]
  | (k, v) :: rest =>
    if key < k then (key, value) :: (k, v) :: rest
    else if key = k then (key, value) :: rest
    else (k, v) :: Members.insert key value rest

/-- The sorted members of a list, of which later ones win. -/
def Members.sort {α : Type} (members : Members α) : Members α :=
  members.foldl (fun sorted m => sorted.insert m.1 m.2) []

mutual

/-- The value with the members of every object sorted, each key once. -/
def canonical : Json → Json
  | array items => array (canonicalItems items)
  | object members => object (Members.sort (canonicalMembers members))
  | value => value

/-- `canonical` on each item. -/
def canonicalItems : List Json → List Json
  | [] => []
  | item :: rest => canonical item :: canonicalItems rest

/-- `canonical` on each value. -/
def canonicalMembers : List (String × Json) → List (String × Json)
  | [] => []
  | (key, value) :: rest => (key, canonical value) :: canonicalMembers rest

end

end Json

end DeviceSecurity
