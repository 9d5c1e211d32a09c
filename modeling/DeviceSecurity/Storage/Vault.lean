import DeviceSecurity.Json.Merge
import DeviceSecurity.Json.Parser
import DeviceSecurity.Json.Printer
import DeviceSecurity.Json.Reader
import DeviceSecurity.Storage.Backing
import DeviceSecurity.Storage.Codec

/-!
# Vaults

A vault is an encrypted key/value storage over a backing store: keys and values pass a codec on
their way in and out. Its actions run on the state of the store and the entropy that is left; an
action that fails stops where it is. A merge changes a stored JSON object by another one. Both are
texts; anything that is no object is refused, the stored text first.
-/

namespace DeviceSecurity

namespace Storage

/-- The JSON object that a text holds. -/
def objectOfText (text : String) : Except Error Json :=
  match Json.ofText? text with
  | none => .error (.malformedInput ("merge value is not JSON: " ++ Json.notJson))
  | some value =>
    if value.isObject then .ok value
    else .error (.malformedInput "merge value is not a JSON object")

/-- The text of the object in `base` with the object in `patch` laid over it. -/
def mergeText (base patch : String) : Except Error String := do
  let stored ← objectOfText base
  let changes ← objectOfText patch
  return (Json.merge stored changes).text

end Storage

/-- What the actions of a vault run on. -/
structure VaultState (σ : Type) where
  store : σ
  entropy : Entropy
deriving DecidableEq, Repr

/-- An action on the state of a vault. -/
abbrev VaultAction (σ α : Type) := ExceptT Error (StateM (VaultState σ)) α

namespace VaultAction

/-- An operation of the backing store. -/
def onStore {σ α : Type} (f : σ → Except Error α × σ) : VaultAction σ α :=
  ExceptT.mk fun s => ((f s.store).1, { s with store := (f s.store).2 })

/-- An operation that may draw entropy. -/
def onEntropy {σ α : Type} (f : Entropy → Except Error α × Entropy) : VaultAction σ α :=
  ExceptT.mk fun s => ((f s.entropy).1, { s with entropy := (f s.entropy).2 })

/-- A result that touches no state. -/
def ofResult {σ α : Type} (r : Except Error α) : VaultAction σ α := ExceptT.mk (pure r)

/-- Runs an action. -/
def runOn {σ α : Type} (a : VaultAction σ α) (s : VaultState σ) :
    Except Error α × VaultState σ :=
  (ExceptT.run a).run s

end VaultAction

/-- A backing store, the codec of its entries and whether values are sealed with a fresh nonce. -/
structure Vault (σ : Type) where
  backing : Backing σ
  codec : StorageCodec
  hard : Bool := false

namespace Vault

variable {σ : Type} (v : Vault σ)

open VaultAction

/-- Seals and stores an entry. -/
def set (key value : String) : VaultAction σ Unit := do
  let (sealedKey, sealedValue) ← onEntropy (v.codec.encodeEntry key value v.hard)
  onStore (v.backing.set sealedKey sealedValue)

/-- The value of a key. -/
def get (key : String) : VaultAction σ (Option String) := do
  let sealedKey ← ofResult (v.codec.encodeKey key)
  match ← onStore (v.backing.get sealedKey) with
  | some sealedValue => some <$> ofResult (v.codec.decryptValue sealedValue v.hard)
  | none => return none

/-- Lays a JSON object over the one stored under a key. Where nothing is stored the text of the
object is stored as it is. -/
def merge (key patch : String) : VaultAction σ Unit := do
  let merged ← match ← v.get key with
    | some stored => ofResult (Storage.mergeText stored patch)
    | none => ofResult ((fun _ => patch) <$> Storage.objectOfText patch)
  v.set key merged

/-- Removes a key. -/
def remove (key : String) : VaultAction σ Unit := do
  let sealedKey ← ofResult (v.codec.encodeKey key)
  let _ ← onStore (v.backing.remove sealedKey)

/-- All keys in the clear. -/
def keys : VaultAction σ (List String) := do
  let sealedKeys ← onStore v.backing.keys
  ofResult (sealedKeys.mapM v.codec.decodeKey)

/-- Removes everything. -/
def clear : VaultAction σ Unit := onStore v.backing.clear

/-! ## Several entries -/

/-- The values of several keys, in the order asked for. -/
def multiGet (keys : List String) : VaultAction σ (List (String × Option String)) :=
  keys.mapM fun key => return (key, ← v.get key)

/-- Stores entries one by one. -/
def multiSet (entries : List (String × String)) : VaultAction σ Unit :=
  entries.forM fun (key, value) => v.set key value

/-- Merges entries one by one. -/
def multiMerge (entries : List (String × String)) : VaultAction σ Unit :=
  entries.forM fun (key, patch) => v.merge key patch

/-- Removes keys one by one. -/
def multiRemove (keys : List String) : VaultAction σ Unit := keys.forM v.remove

end Vault

end DeviceSecurity
