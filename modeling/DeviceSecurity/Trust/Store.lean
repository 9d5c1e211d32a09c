import DeviceSecurity.Pin.Validator
import DeviceSecurity.Trust.Path
import DeviceSecurity.Trust.Pem

/-!
# Trust stores

A trust store is built from root certificates. Those that can be read strictly become anchors; those
that can be read leniently make up the catalog, in which the root of a chain is looked up when the
server did not send it.
-/

namespace DeviceSecurity

/-- Trust anchors and a catalog of roots. -/
structure TrustStore where
  anchors : List Trust.Anchor
  catalog : List CertificateInfo

namespace TrustStore

/-- The store of root certificates. There must be at least one anchor. -/
def ofRoots (roots : List Bytes) : Except Error TrustStore :=
  let anchors := roots.filterMap fun root => (Trust.Anchor.ofBytes root).toOption
  if anchors.isEmpty then .error (.trustEvaluationFailed "no root trust anchors were provided")
  else .ok ⟨anchors, roots.filterMap CertificateInfo.ofBytes?⟩

/-- The store of the certificates in a text, which the platform provides. They are sorted, and each
counts once. -/
def ofPlatform (text : String) : Except Error TrustStore :=
  let roots := ((Pem.certificates text).mergeSort fun a b => !List.lex b a (· < ·)).eraseReps
  if roots.isEmpty then
    .error (.trustEvaluationFailed "no platform root certificates available")
  else ofRoots roots

/-- The first root of the catalog whose subject is the issuer of a certificate. -/
def findIssuer (store : TrustStore) (certificate : Bytes) : Option CertificateInfo := do
  let c ← CertificateInfo.ofBytes? certificate
  store.catalog.find? fun root => root.subject == c.issuer

/-- Whether a chain is trusted for its host at a time. -/
def evaluate (store : TrustStore) (now : Int) : TrustEvaluator := fun offer =>
  match offer.chain with
  | [] => .error (.trustEvaluationFailed "empty certificate chain")
  | leaf :: rest =>
    match ServerName.ofText? offer.host with
    | none => .error (.trustEvaluationFailed (offer.host ++ ": invalid dns name"))
    | some server =>
      match Trust.verifyServer now store.anchors leaf rest server with
      | .ok _ => .ok ()
      | .error fault => .error (.trustEvaluationFailed fault.message)

/-- The diagnostic form. -/
def debug (store : TrustStore) : String :=
  "WebPkiTrustEvaluator \x7b roots: " ++ toString store.catalog.length ++ " \x7d"

end TrustStore

end DeviceSecurity
