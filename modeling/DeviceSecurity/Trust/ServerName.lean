import DeviceSecurity.Bytes
import DeviceSecurity.Net.IpAddress
import DeviceSecurity.Text.Basic

/-!
# Names of servers

A server is named by a DNS name or an IP address. A DNS name has labels of at most 63 letters,
digits, hyphens and underscores; no label begins or ends with a hyphen, the last one is not all
digits, and one dot may follow it.
-/

namespace DeviceSecurity

/-- The name under which a server is addressed. -/
inductive ServerName where
  | dns (name : String)
  | ip (address : IpAddress)
deriving DecidableEq, Repr

namespace ServerName

/-- A character of a label. -/
def isLabelChar (c : Char) : Bool := c.isAlphanum || c == '-' || c == '_'

/-- Whether characters form a label. -/
def isLabel (label : List Char) : Bool :=
  !label.isEmpty && label.length ≤ 63 && label.all isLabelChar && label.head? != some '-' &&
    label.getLast? != some '-'

/-- Whether a text is a DNS name. -/
def isDnsName (name : List Char) : Bool :=
  name.length ≤ 253 &&
    let labels := Text.splitAt '.' name
    let relative :=
      if 1 < labels.length && labels.getLast? == some [] then labels.dropLast else labels
    relative.all isLabel && !(relative.getLast?.getD []).all Char.isDigit

/-- Reads a name. -/
def ofText? (s : String) : Option ServerName :=
  if isDnsName s.toList then some (dns s) else (IpAddress.ofText? s).map ip

/-- The written form. -/
def text : ServerName → String
  | dns name => name
  | ip address => address.text

end ServerName

end DeviceSecurity
