import DeviceSecurity.Net.Host

/-!
# Addresses

An address has a scheme and, depending on it, user, host, port, path, query and fragment, each
kept in the encoded form in which `text` writes it.
-/

namespace DeviceSecurity

/-- The path of an address: the segments between slashes, or a text without structure. -/
inductive UrlPath where
  | segments (list : List String)
  | opaqueText (text : String)
deriving DecidableEq, Repr

/-- The written form of a path. -/
def UrlPath.text : UrlPath → String
  | segments list => String.join (list.map ("/" ++ ·))
  | opaqueText text => text

/-- An address. -/
structure Url where
  /-- The scheme in small letters. -/
  scheme : String
  username : String := ""
  password : Option String := none
  host : Option Host := none
  /-- The port, when it is not the one of the scheme. -/
  port : Option Nat := none
  path : UrlPath := .segments []
  query : Option String := none
  fragment : Option String := none
deriving DecidableEq, Repr

namespace Url

/-- The schemes of the web and the ports that they imply. -/
def webSchemes : List (String × Option Nat) :=
  [("http", some 80), ("https", some 443), ("ws", some 80), ("wss", some 443), ("ftp", some 21),
    ("file", none)]

/-- Whether a scheme is one of the web. -/
def isWebScheme (scheme : String) : Bool := (webSchemes.lookup scheme).isSome

/-- The port that a scheme implies. -/
def defaultPort (scheme : String) : Option Nat := (webSchemes.lookup scheme).join

/-- The port to connect to. -/
def portOrDefault (u : Url) : Option Nat := u.port <|> defaultPort u.scheme

/-- Whether an address names a user or a password. -/
def hasCredentials (u : Url) : Bool := u.username ≠ "" || u.password.isSome

/-- The address without its user. -/
def withoutCredentials (u : Url) : Url := { u with username := "", password := none }

/-- What is asked of the host: path and query. -/
def target (u : Url) : String := u.path.text ++ (u.query.map ("?" ++ ·)).getD ""

/-- User, host and port behind their two slashes. Where there is no host a path that begins with
two slashes is set off by a dot. -/
def authorityText (u : Url) : String :=
  match u.host with
  | some host =>
    let user := if u.hasCredentials then
      u.username ++ (u.password.map (":" ++ ·)).getD "" ++ "@" else ""
    "//" ++ user ++ host.text ++ (u.port.map fun p => ":" ++ toString p).getD ""
  | none =>
    if u.scheme = "file" then "//"
    else
      match u.path with
      | .segments ("" :: _ :: _) => "/."
      | _ => ""

/-- The written form. -/
def text (u : Url) : String :=
  u.scheme ++ ":" ++ u.authorityText ++ u.target ++ (u.fragment.map ("#" ++ ·)).getD ""

end Url

end DeviceSecurity
