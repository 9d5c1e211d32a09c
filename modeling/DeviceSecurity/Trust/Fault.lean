/-!
# Why a chain is not trusted

The faults that the search for a trusted path can meet. When every path fails, the fault that is
reported is the most specific one, as `rank` orders them. Faults are reported by class.
-/

namespace DeviceSecurity

/-- A reason why a certificate or a path is refused. -/
inductive TrustFault where
  | unknownIssuer
  | notValidYet
  | expired
  | notValidForName
  | invalidSignature
  | algorithmMismatch
  | requiredUsageMissing
  | nameConstraintViolation
  | pathLengthViolated
  | caUsedAsEndEntity
  | endEntityUsedAsCa
  /-- The end of the validity is before its start. -/
  | emptyValidity
  | invalidNetworkMask
  | unsupportedAlgorithmForKey
  | unsupportedAlgorithm
  | unsupportedCriticalExtension
  | unsupportedVersion
  | pathTooDeep
  | malformedDnsIdentifier
  | malformedNameConstraint
  | trailingData
  | repeatedExtension
  | badTime
  | badEncoding
deriving DecidableEq, Repr

namespace TrustFault

/-- How specific a fault is: faults of valid data first, then those of unsupported, then those of
malformed data. -/
def rank : TrustFault → Nat
  | notValidYet | expired => 290
  | notValidForName => 280
  | invalidSignature => 260
  | algorithmMismatch => 250
  | requiredUsageMissing => 240
  | nameConstraintViolation => 230
  | pathLengthViolated => 220
  | caUsedAsEndEntity | endEntityUsedAsCa => 210
  | emptyValidity => 190
  | invalidNetworkMask => 180
  | unsupportedAlgorithmForKey => 150
  | unsupportedAlgorithm => 140
  | unsupportedCriticalExtension | unsupportedVersion => 130
  | pathTooDeep => 61
  | malformedDnsIdentifier => 60
  | malformedNameConstraint => 50
  | trailingData => 40
  | repeatedExtension => 30
  | badTime => 20
  | badEncoding => 10
  | unknownIssuer => 0

/-- The more specific of two faults, the first of equally specific ones. -/
def mostSpecific (a b : TrustFault) : TrustFault := if b.rank ≤ a.rank then a else b

/-- The class under which a fault is reported. -/
def className : TrustFault → String
  | unknownIssuer => "UnknownIssuer"
  | notValidYet => "NotValidYet"
  | expired | emptyValidity => "Expired"
  | notValidForName => "NotValidForName"
  | invalidSignature | unsupportedAlgorithm | unsupportedAlgorithmForKey => "BadSignature"
  | requiredUsageMissing => "WrongPurpose"
  | nameConstraintViolation => "NameConstraintViolation"
  | pathLengthViolated => "PathLenConstraintViolated"
  | caUsedAsEndEntity => "CaUsedAsEndEntity"
  | endEntityUsedAsCa => "EndEntityUsedAsCa"
  | trailingData | badTime | badEncoding => "BadEncoding"
  | algorithmMismatch => "SignatureAlgorithmMismatch"
  | invalidNetworkMask => "InvalidNetworkMaskConstraint"
  | unsupportedCriticalExtension => "UnsupportedCriticalExtension"
  | unsupportedVersion => "UnsupportedCertVersion"
  | pathTooDeep => "MaximumPathDepthExceeded"
  | malformedDnsIdentifier => "MalformedDnsIdentifier"
  | malformedNameConstraint => "MalformedNameConstraint"
  | repeatedExtension => "ExtensionValueInvalid"

/-- How a fault is reported. -/
def message (fault : TrustFault) : String := "<" ++ fault.className ++ ">"

end TrustFault

/-- A result that a fault may stand in place of. -/
abbrev Trusting (α : Type) := Except TrustFault α

end DeviceSecurity
