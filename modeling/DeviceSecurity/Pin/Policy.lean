import DeviceSecurity.Pin.Digest

/-!
# Pinning policies

A policy lists the pins that intermediate certificates must match, the domains that the leaf may
be issued for and, optionally, pins for the leaf. It applies when it has both pins and domains. A
domain covers a name that equals it or ends in it behind a dot; `*.` before a domain leaves the
domain itself out.
-/

namespace DeviceSecurity

/-- The pinning policy of a request. -/
structure PinPolicy where
  /-- The domain patterns, normalized. -/
  domains : List String := []
  /-- The pins of intermediate certificates. -/
  pins : List PinDigest := []
  /-- The pins of the leaf; when there are none the leaf may have any key. -/
  leafPins : List PinDigest := []
deriving DecidableEq

namespace PinPolicy

/-- A configured domain as it is compared: without blanks and without dots at its end, in small
letters. -/
def normalizeDomain (domain : String) : String :=
  Text.lower (Text.trimEnd '.' (Text.trim domain))

/-- A policy of pins and domains given as texts. Empty domains are dropped. -/
def ofTexts (pins domains : List String) : Except Error PinPolicy := do
  let pins ← pins.mapM PinDigest.ofText
  return {
    domains := (domains.map normalizeDomain).filter (· ≠ "")
    pins := pins.eraseDups
  }

/-- The policy with pins for the leaf. -/
def withLeafPins (p : PinPolicy) (pins : List String) : Except Error PinPolicy := do
  let pins ← pins.mapM PinDigest.ofText
  return { p with leafPins := pins.eraseDups }

/-- Whether the policy has both pins and domains, without which it does not apply. -/
def isConfigured (p : PinPolicy) : Bool := !p.pins.isEmpty && !p.domains.isEmpty

/-- Whether a name is longer than a suffix and ends in it. -/
def endsProperly (name suffix : List Char) : Bool :=
  suffix.length < name.length && suffix.isSuffixOf name

/-- Whether a normalized pattern covers a normalized name. -/
def covers (pattern name : List Char) : Bool :=
  name == pattern ||
    match pattern with
    | '*' :: suffix => suffix.head? == some '.' && endsProperly name suffix
    | _ => endsProperly name ('.' :: pattern)

/-- Whether some domain covers a common name. -/
def allowsDomain (p : PinPolicy) (commonName : String) : Bool :=
  let name := (Text.lower (Text.trimEnd '.' commonName)).toList
  p.domains.any fun pattern => covers pattern.toList name

end PinPolicy

end DeviceSecurity
