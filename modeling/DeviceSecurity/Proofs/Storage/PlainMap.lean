import DeviceSecurity.Proofs.Storage.Codec
import DeviceSecurity.Storage.Vault
import Mathlib.Data.Finmap

/-!
# The plain map behind a vault

What a vault does, said without sealing: requests are answered by a finite map from texts to texts
and by the number of random bytes that are left. `PlainAction.serve` answers one request and
`PlainState.answers` a sequence of them. A request is refused when a merge meets something that is
no JSON object, when a write in hard mode finds too few random bytes for a nonce, and when a text
is longer than the cipher can seal. A refused read or write leaves the map as it was; a sequence of
writes stops at the first that is refused and keeps those before it.
-/

namespace DeviceSecurity

/-! ## Requests and replies -/

/-- What a vault can be asked for. -/
inductive VaultRequest where
  | set (key value : String)
  | get (key : String)
  | merge (key patch : String)
  | remove (key : String)
  | keys
  | multiGet (keys : List String)
  | multiSet (entries : List (String × String))
  | multiMerge (entries : List (String × String))
  | multiRemove (keys : List String)
  | clear
deriving DecidableEq, Repr

/-- What comes back, with the keys of a store given as a `κ`. -/
inductive VaultReply (κ : Type) where
  | done
  | value (value : Option String)
  | values (values : List (String × Option String))
  | keys (keys : κ)
deriving DecidableEq

namespace Vault

variable {σ : Type} (v : Vault σ)

/-- Answers a request. -/
def serve : VaultRequest → VaultAction σ (VaultReply (List String))
  | .set key value => (fun _ => .done) <$> v.set key value
  | .get key => .value <$> v.get key
  | .merge key patch => (fun _ => .done) <$> v.merge key patch
  | .remove key => (fun _ => .done) <$> v.remove key
  | .keys => .keys <$> v.keys
  | .multiGet keys => .values <$> v.multiGet keys
  | .multiSet entries => (fun _ => .done) <$> v.multiSet entries
  | .multiMerge entries => (fun _ => .done) <$> v.multiMerge entries
  | .multiRemove keys => (fun _ => .done) <$> v.multiRemove keys
  | .clear => (fun _ => .done) <$> v.clear

/-- Answers requests one after the other; one that fails does not stop those behind it. -/
def answers : List VaultRequest → VaultState σ →
    List (Except Error (VaultReply (List String))) × VaultState σ
  | [], s => ([], s)
  | request :: later, s =>
    let (reply, s) := (v.serve request).runOn s
    let (replies, s) := answers later s
    (reply :: replies, s)

end Vault

/-! ## The plain map -/

/-- A finite map from texts to texts. -/
abbrev PlainMap := Finmap fun _ : String => String

/-- Why a request is refused. -/
inductive Refusal where
  /-- A merge met a text that is no JSON object. -/
  | malformed
  /-- Too few random bytes are left for a nonce. -/
  | noEntropy
  /-- A text is longer than the cipher can seal. -/
  | tooLong
deriving DecidableEq, Repr

/-- The errors by which a vault reports a refusal. -/
def Refusal.Reports : Refusal → Error → Prop
  | malformed, e => ∃ reason, e = .malformedInput reason
  | noEntropy, e => e = .rngFailed
  | tooLong, e => ∃ reason, e = .encryptionFailed reason

/-- A map, and the number of random bytes that are left. -/
structure PlainState where
  map : PlainMap
  left : Nat

/-- An action on a plain map, which may be refused. -/
abbrev PlainAction (α : Type) := ExceptT Refusal (StateM PlainState) α

namespace PlainAction

/-- Runs an action. -/
def runOn {α : Type} (a : PlainAction α) (s : PlainState) : Except Refusal α × PlainState :=
  (ExceptT.run a).run s

/-- Looks at the map. -/
def look {α : Type} (f : PlainMap → α) : PlainAction α := ExceptT.mk fun s => (.ok (f s.map), s)

/-- Changes the map. -/
def change (f : PlainMap → PlainMap) : PlainAction Unit :=
  ExceptT.mk fun s => (.ok (), { s with map := f s.map })

/-- Refuses a text that is too long. -/
def requireShort (text : String) : PlainAction Unit :=
  if Text.isTooLong text then throw .tooLong else pure ()

/-- Takes the bytes of a nonce in hard mode. -/
def takeNonce (hard : Bool) : PlainAction Unit := ExceptT.mk fun s =>
  if !hard then (.ok (), s)
  else if s.left < Gcm.nonceSize then (.error .noEntropy, s)
  else (.ok (), { s with left := s.left - Gcm.nonceSize })

/-- Puts a value under a key. -/
def write (hard : Bool) (key value : String) : PlainAction Unit := do
  requireShort key
  takeNonce hard
  requireShort value
  change (·.insert key value)

/-- The value under a key. -/
def read (key : String) : PlainAction (Option String) := do
  requireShort key
  look (·.lookup key)

/-- What a merge writes: the merged object or, where nothing is stored, the patch as it is. -/
def mergedText (stored : Option String) (patch : String) : PlainAction String :=
  match stored with
  | some stored =>
    match Storage.mergeText stored patch with
    | .ok merged => pure merged
    | .error _ => throw .malformed
  | none =>
    match Json.ofText? patch with
    | some (.object _) => pure patch
    | _ => throw .malformed

/-- Lays a JSON object over the one under a key. -/
def merge (hard : Bool) (key patch : String) : PlainAction Unit := do
  let merged ← mergedText (← read key) patch
  write hard key merged

/-- Takes a key out. -/
def remove (key : String) : PlainAction Unit := do
  requireShort key
  change (·.erase key)

/-- The values under several keys, in the order asked for. -/
def readAll (keys : List String) : PlainAction (List (String × Option String)) :=
  if keys.any Text.isTooLong then throw .tooLong
  else look fun map => keys.map fun key => (key, map.lookup key)

/-- Answers a request. -/
def serve (hard : Bool) : VaultRequest → PlainAction (VaultReply (Finset String))
  | .set key value => (fun _ => .done) <$> write hard key value
  | .get key => .value <$> read key
  | .merge key patch => (fun _ => .done) <$> merge hard key patch
  | .remove key => (fun _ => .done) <$> remove key
  | .keys => .keys <$> look (·.keys)
  | .multiGet keys => .values <$> readAll keys
  | .multiSet entries => (fun _ => .done) <$> entries.forM fun e => write hard e.1 e.2
  | .multiMerge entries => (fun _ => .done) <$> entries.forM fun e => merge hard e.1 e.2
  | .multiRemove keys => (fun _ => .done) <$> keys.forM remove
  | .clear => (fun _ => .done) <$> change fun _ => ∅

end PlainAction

/-- Answers requests one after the other. -/
def PlainState.answers (hard : Bool) : List VaultRequest → PlainState →
    List (Except Refusal (VaultReply (Finset String))) × PlainState
  | [], s => ([], s)
  | request :: later, s =>
    let (reply, s) := (PlainAction.serve hard request).runOn s
    let (replies, s) := answers hard later s
    (reply :: replies, s)

end DeviceSecurity
