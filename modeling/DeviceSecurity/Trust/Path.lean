import DeviceSecurity.Trust.Names
import DeviceSecurity.Trust.Signature

/-!
# Trusted paths

A path leads from the certificate of a server over issuers to a trust anchor. It is searched depth
first: each certificate is checked by itself, then every anchor that has its issuer's name is
tried, then every offered certificate that has that name. Of the faults on the way the most
specific one is reported.
-/

namespace DeviceSecurity.Trust

open Encoding

/-! ## What a certificate must satisfy by itself -/

/-- The time must be within the validity. -/
def checkValidity (now : Int) (validity : Bytes) : Trusting Unit := do
  let (start, b) ← time validity
  let (stop, b) ← time b
  if stop < start then throw .emptyValidity
  if now < start then throw .notValidYet
  if stop < now then throw .expired
  atEndOr .badEncoding b

/-- The server's certificate must be no authority; an issuer must be one, and the number of
issuers below it must not exceed what it admits. `issuersBelow` is nothing for the server. -/
def checkBasicConstraints (issuersBelow : Option Nat) (constraints : Option Bytes) :
    Trusting Unit := do
  let (authority, limit, b) ← match constraints with
    | none => pure (false, none, [])
    | some b => do
      let (authority, b) ← flag b
      if b.isEmpty then pure (authority, none, b)
      else
        let (limit, b) ← smallNumber b
        pure (authority, some limit, b)
  match issuersBelow, authority, limit with
  | none, true, _ => throw .caUsedAsEndEntity
  | some _, false, _ => throw .endEntityUsedAsCa
  | some n, true, some limit => if limit < n then throw .pathLengthViolated
  | _, _, _ => pure ()
  atEndOr .badEncoding b

/-- The purpose of authenticating a server, 1.3.6.1.5.5.7.3.1. -/
def serverPurpose : Bytes := [0x2b, 0x06, 0x01, 0x05, 0x05, 0x07, 0x03, 0x01]

/-- Looks for the purpose in a list of purposes; at most `fuel` of them. -/
def checkPurposes : (fuel : Nat) → Bytes → Trusting Unit
  | 0, _ => .error .requiredUsageMissing
  | fuel + 1, b => do
    let (purpose, rest) ← value objectIdentifier b
    if purpose = serverPurpose then return ()
    if rest.isEmpty then throw .requiredUsageMissing
    checkPurposes fuel rest

/-- Where purposes are listed, authenticating a server must be among them. -/
def checkUsage : Option Bytes → Trusting Unit
  | none => .ok ()
  | some b => checkPurposes (b.length + 1) b

/-- Checks a certificate by itself. -/
def checkAlone (now : Int) (issuersBelow : Option Nat) (c : Certificate) : Trusting Unit := do
  checkValidity now c.validity
  checkBasicConstraints issuersBelow c.extensions.basicConstraints
  checkUsage c.extensions.extendedUsage

/-! ## What a path must satisfy -/

/-- Checks the signatures along a path, from the issuer's key at its top down. -/
def checkSignatures (issuerKey : Bytes) : List Certificate → Trusting Unit
  | [] => .ok ()
  | c :: below => do
    checkSignature issuerKey c
    checkSignatures c.key below

/-- Checks the name constraints along a path: those of each issuer hold for all names below. -/
def checkPathNames (constraints : Option Bytes) : List Certificate → Trusting Unit
  | [] => .ok ()
  | c :: below => do
    checkConstraints constraints (c :: below)
    checkPathNames c.extensions.nameConstraints below

/-- Checks whether an anchor ends a path, whose certificates are listed from the top. -/
def checkAnchor (path : List Certificate) (top : Certificate) (anchor : Anchor) :
    Trusting Unit := do
  if top.issuer ≠ anchor.subject then throw .unknownIssuer
  checkSignatures anchor.key path
  checkPathNames anchor.nameConstraints path

/-- Tries candidates in turn. If none succeeds the fault is the most specific one. -/
def tryEach {α : Type} (attempt : α → Trusting Unit) : (fault : TrustFault) → List α → Trusting Unit
  | fault, [] => .error fault
  | fault, a :: rest =>
    match attempt a with
    | .ok _ => .ok ()
    | .error other => tryEach attempt (fault.mostSpecific other) rest

/-- The number of issuers below the next one. -/
def nextCount : Option Nat → Option Nat
  | none => some 0
  | some n => some (n + 1)

/-- Searches on from the top of a path, which may grow by `depth` certificates. -/
def extend (now : Int) (anchors : List Anchor) (offered : List Bytes) :
    (depth : Nat) → (issuersBelow : Option Nat) → (top : Certificate) → (below : List Certificate) →
      Trusting Unit
  | depth, issuersBelow, top, below => do
    checkAlone now issuersBelow top
    let path := top :: below
    match tryEach (checkAnchor path top) .unknownIssuer anchors with
    | .ok _ => return ()
    | .error fault =>
      tryEach (fun encoded => do
        let issuer ← Certificate.ofBytes encoded
        if issuer.subject ≠ top.issuer then throw .unknownIssuer
        -- no certificate may stand twice on a path
        if path.any fun c => c.key == issuer.key && c.subject == issuer.subject then
          throw .unknownIssuer
        match depth with
        | 0 => throw .pathTooDeep
        | depth + 1 => extend now anchors offered depth (nextCount issuersBelow) issuer path)
        fault offered

/-- The most issuers on a path. -/
def maxIssuers : Nat := 6

/-- Checks that a path leads from a server's certificate to an anchor, and that the certificate is
for the server. -/
def verifyServer (now : Int) (anchors : List Anchor) (leaf : Bytes) (offered : List Bytes)
    (server : ServerName) : Trusting Unit := do
  let c ← Certificate.ofBytes leaf
  extend now anchors offered maxIssuers none c []
  checkServerName c server

end DeviceSecurity.Trust
