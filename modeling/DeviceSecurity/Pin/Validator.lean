import DeviceSecurity.Certificate.Info
import DeviceSecurity.Pin.HostName
import DeviceSecurity.Pin.Policy

/-!
# Validating a chain against a policy

The rules are applied one after the other, each moving the validation to its next state: port and
length of the chain, the leaf's domain, the pins of the intermediates, the leaf's pins and the
host. The first rule that fails decides, and the verdict names the state reached before it. What
is left is the question whether the chain is trusted, which is put to an evaluator. Without pins
and domains only that question is asked.
-/

namespace DeviceSecurity

/-- A chain of certificates, leaf first, and the address that it was offered at. -/
structure ChainOffer where
  host : String
  port : Nat
  chain : List Bytes
deriving DecidableEq, Repr

/-- Decides whether a chain is trusted for its host. -/
abbrev TrustEvaluator := ChainOffer → Except Error Unit

/-- How far a validation has come. -/
inductive ValidationState where
  /-- Nothing has been checked. -/
  | received
  /-- Port and chain length are within the policy. -/
  | chainLengthChecked
  /-- The leaf's common name is in a domain. -/
  | domainChecked
  /-- All intermediates are pinned. -/
  | intermediatesMatched
  /-- Leaf pins and host match. -/
  | leafMatched
  /-- The chain is trusted. -/
  | policyEvaluated
deriving DecidableEq, Repr

/-- The written name of a state. -/
def ValidationState.name : ValidationState → String
  | received => "received"
  | chainLengthChecked => "chain_length_checked"
  | domainChecked => "domain_checked"
  | intermediatesMatched => "intermediates_matched"
  | leafMatched => "leaf_matched"
  | policyEvaluated => "policy_evaluated"

/-- The outcome of a validation. -/
inductive Verdict where
  | accepted
  /-- The last state reached, and why the next rule failed. -/
  | rejected (state : ValidationState) (error : Error)
deriving DecidableEq, Repr

namespace Verdict

/-- Whether the chain may be used. -/
def isAccepted : Verdict → Bool
  | accepted => true
  | rejected .. => false

/-- Why the chain was rejected. -/
def error? : Verdict → Option Error
  | accepted => none
  | rejected _ e => some e

/-- The verdict as a result. -/
def toResult : Verdict → Except Error Unit
  | accepted => .ok ()
  | rejected _ e => .error e

end Verdict

namespace PinValidation

/-- The only port at which pinned chains are accepted. -/
def httpsPort : Nat := 443

/-- The shortest pinned chain: leaf, intermediate, root. -/
def minChainLength : Nat := 3

/-- The longest pinned chain: leaf, two intermediates, root. -/
def maxChainLength : Nat := 4

/-- A validation under way: it fails with the state it was in. -/
abbrev Step (α : Type) := Except (ValidationState × Error) α

/-- Applies a rule in a state. -/
def during {α : Type} (state : ValidationState) (rule : Except Error α) : Step α :=
  match rule with
  | .ok a => .ok a
  | .error e => .error (state, e)

/-! ## The rules -/

/-- The port must be that of HTTPS, and the chain neither too short nor too long. -/
def checkShape (offer : ChainOffer) : Except Error Unit := do
  if offer.port ≠ httpsPort then
    throw (.chainRejected s!"port {offer.port} is not {httpsPort}")
  let length := offer.chain.length
  if length < minChainLength ∨ maxChainLength < length then
    throw (.chainRejected
      s!"chain length {length} outside {minChainLength}..={maxChainLength}")

/-- The leaf must have a common name within the domains. The result is the leaf and the name. -/
def checkDomain (policy : PinPolicy) (leaf : Bytes) : Except Error (CertificateInfo × String) := do
  let leaf ← CertificateInfo.ofBytes leaf
  match leaf.commonName with
  | none => throw (.domainMismatch "leaf certificate has no common name")
  | some name =>
    if policy.allowsDomain name then return (leaf, name)
    throw (.domainMismatch (name ++ " is not within " ++ Text.quoteList policy.domains))

/-- A certificate between leaf and root must be pinned. `place` counts them from 1. -/
def checkIntermediate (policy : PinPolicy) (place : Nat) (certificate : Bytes) :
    Except Error Unit := do
  let c ← CertificateInfo.ofBytes certificate
  if !c.matchesAny policy.pins then
    throw (.pinMismatch
      ("intermediate " ++ toString place ++ " (" ++ c.commonName.getD "unnamed" ++
        ") is not pinned"))

/-- All certificates of a list must be pinned. -/
def checkIntermediates (policy : PinPolicy) : (place : Nat) → List Bytes → Except Error Unit
  | _, [] => .ok ()
  | place, certificate :: rest => do
    checkIntermediate policy place certificate
    checkIntermediates policy (place + 1) rest

/-- The leaf must be pinned where the policy has pins for it, and its name must match the host. -/
def checkLeaf (policy : PinPolicy) (leaf : CertificateInfo) (name host : String) :
    Except Error Unit := do
  if !policy.leafPins.isEmpty && !leaf.matchesAny policy.leafPins then
    throw (.pinMismatch ("leaf " ++ name ++ " is not pinned"))
  if !(← HostName.matchesName name host) then
    throw (.hostMismatch (host ++ " does not match certificate " ++ name))

/-- All rules of a policy. -/
def checkPinned (policy : PinPolicy) (offer : ChainOffer) : Step Unit := do
  during .received (checkShape offer)
  let (leaf, name) ← during .chainLengthChecked (checkDomain policy (offer.chain.headD []))
  during .domainChecked (checkIntermediates policy 1 (offer.chain.drop 1).dropLast)
  during .intermediatesMatched (checkLeaf policy leaf name offer.host)

/-- The state in which the evaluator is asked, if the rules let it come to that. -/
def stateBeforeTrust (policy : PinPolicy) (offer : ChainOffer) : Step ValidationState :=
  if policy.isConfigured then (fun _ => .leafMatched) <$> checkPinned policy offer
  else .ok .received

/-- The verdict on a chain. -/
def evaluate (trusted : TrustEvaluator) (policy : PinPolicy) (offer : ChainOffer) : Verdict :=
  match stateBeforeTrust policy offer with
  | .error (state, e) => .rejected state e
  | .ok state =>
    match trusted offer with
    | .ok _ => .accepted
    | .error e => .rejected state e

/-- The diagnostic form of a validation by an evaluator, of which the form is given. -/
def debug (evaluator : String) : String :=
  "PinningValidator \x7b evaluator: " ++ evaluator ++ " \x7d"

end PinValidation

end DeviceSecurity
