import DeviceSecurity.Base64
import DeviceSecurity.Bytes
import DeviceSecurity.Certificate.Info
import DeviceSecurity.Cipher.Aes
import DeviceSecurity.Cipher.Gcm
import DeviceSecurity.Cipher.Key
import DeviceSecurity.Cipher.Sealed
import DeviceSecurity.Configuration
import DeviceSecurity.Curve.Basic
import DeviceSecurity.Curve.Ecdsa
import DeviceSecurity.Curve.Ed25519
import DeviceSecurity.Curve.KeyPair
import DeviceSecurity.Curve.Modular
import DeviceSecurity.Curve.PeerKey
import DeviceSecurity.Curve.Point
import DeviceSecurity.Decimal.Binary64
import DeviceSecurity.Decimal.Shortest
import DeviceSecurity.Der.Element
import DeviceSecurity.Der.Name
import DeviceSecurity.Der.SubjectKey
import DeviceSecurity.Der.Time
import DeviceSecurity.Entropy
import DeviceSecurity.Error
import DeviceSecurity.Hash.Digest
import DeviceSecurity.Hash.Hmac
import DeviceSecurity.Hash.Sha256
import DeviceSecurity.Hash.Sha512
import DeviceSecurity.Identifier
import DeviceSecurity.Integrity.FileTree
import DeviceSecurity.Integrity.Scan
import DeviceSecurity.Json.Basic
import DeviceSecurity.Json.Merge
import DeviceSecurity.Json.Parser
import DeviceSecurity.Json.Printer
import DeviceSecurity.Json.Reader
import DeviceSecurity.Json.Skip
import DeviceSecurity.LogFilter
import DeviceSecurity.Net.DomainMapping
import DeviceSecurity.Net.DomainName
import DeviceSecurity.Net.Host
import DeviceSecurity.Net.IpAddress
import DeviceSecurity.Net.Percent
import DeviceSecurity.Net.Punycode
import DeviceSecurity.Net.Url.Basic
import DeviceSecurity.Net.Url.Parser
import DeviceSecurity.Pin.Digest
import DeviceSecurity.Pin.HostName
import DeviceSecurity.Pin.Policy
import DeviceSecurity.Pin.Validator
import DeviceSecurity.Pin.Verifier
import DeviceSecurity.Proofs.Base64.Canonical
import DeviceSecurity.Proofs.Base64.RoundTrip
import DeviceSecurity.Proofs.Cipher.Blocks
import DeviceSecurity.Proofs.Cipher.DeviceBound
import DeviceSecurity.Proofs.Cipher.Exact
import DeviceSecurity.Proofs.Cipher.Fault
import DeviceSecurity.Proofs.Cipher.Field
import DeviceSecurity.Proofs.Cipher.Framing
import DeviceSecurity.Proofs.Cipher.Key
import DeviceSecurity.Proofs.Cipher.Outcome
import DeviceSecurity.Proofs.Cipher.Polynomial
import DeviceSecurity.Proofs.Cipher.RoundTrip
import DeviceSecurity.Proofs.Cipher.Tamper
import DeviceSecurity.Proofs.Cipher.WrittenForm
import DeviceSecurity.Proofs.Configuration
import DeviceSecurity.Proofs.Curve.Agreement
import DeviceSecurity.Proofs.Curve.Draw
import DeviceSecurity.Proofs.Curve.Encoding
import DeviceSecurity.Proofs.Curve.Forms
import DeviceSecurity.Proofs.Curve.Group
import DeviceSecurity.Proofs.Curve.Modular
import DeviceSecurity.Proofs.Curve.Order
import DeviceSecurity.Proofs.Curve.PeerKey
import DeviceSecurity.Proofs.Curve.Pratt
import DeviceSecurity.Proofs.Curve.Primes
import DeviceSecurity.Proofs.Der.Element
import DeviceSecurity.Proofs.Entropy.Run
import DeviceSecurity.Proofs.Entropy.Use
import DeviceSecurity.Proofs.Entropy.Vault
import DeviceSecurity.Proofs.Json.Algebra
import DeviceSecurity.Proofs.Json.Canonical
import DeviceSecurity.Proofs.Json.Closure
import DeviceSecurity.Proofs.Json.Grammar
import DeviceSecurity.Proofs.Json.Merge
import DeviceSecurity.Proofs.Json.Record
import DeviceSecurity.Proofs.Json.RoundTrip
import DeviceSecurity.Proofs.Json.Token
import DeviceSecurity.Proofs.Json.WrittenRecord
import DeviceSecurity.Proofs.KeyUse
import DeviceSecurity.Proofs.Pin.BareText
import DeviceSecurity.Proofs.Pin.Completion
import DeviceSecurity.Proofs.Pin.Decision
import DeviceSecurity.Proofs.Pin.Domain
import DeviceSecurity.Proofs.Pin.HostDomain
import DeviceSecurity.Proofs.Pin.HostPattern
import DeviceSecurity.Proofs.Pin.LeafPins
import DeviceSecurity.Proofs.Pin.Recording
import DeviceSecurity.Proofs.Pin.Texts
import DeviceSecurity.Proofs.Request.Cleartext
import DeviceSecurity.Proofs.Request.Headers
import DeviceSecurity.Proofs.Request.ManagedHeaders
import DeviceSecurity.Proofs.Request.Preflight
import DeviceSecurity.Proofs.Request.Signing
import DeviceSecurity.Proofs.Request.WrittenOptions
import DeviceSecurity.Proofs.Result
import DeviceSecurity.Proofs.Session.Agreement
import DeviceSecurity.Proofs.Session.History
import DeviceSecurity.Proofs.Session.Refusal
import DeviceSecurity.Proofs.Session.Run
import DeviceSecurity.Proofs.Session.Step
import DeviceSecurity.Proofs.Signature.AcceptedHeader
import DeviceSecurity.Proofs.Signature.RoundTrip
import DeviceSecurity.Proofs.Signature.SignedBytes
import DeviceSecurity.Proofs.Signature.Verification
import DeviceSecurity.Proofs.Storage.Action
import DeviceSecurity.Proofs.Storage.Atomicity
import DeviceSecurity.Proofs.Storage.Codec
import DeviceSecurity.Proofs.Storage.DeviceKey
import DeviceSecurity.Proofs.Storage.Identifier
import DeviceSecurity.Proofs.Storage.Item
import DeviceSecurity.Proofs.Storage.Listing
import DeviceSecurity.Proofs.Storage.MergeOrder
import DeviceSecurity.Proofs.Storage.MergeText
import DeviceSecurity.Proofs.Storage.PlainMap
import DeviceSecurity.Proofs.Storage.Policy
import DeviceSecurity.Proofs.Storage.Refinement
import DeviceSecurity.Proofs.Text.Encoding
import DeviceSecurity.Proofs.Text.Folding
import DeviceSecurity.Proofs.Text.Search
import DeviceSecurity.Proofs.Text.Trim
import DeviceSecurity.Report
import DeviceSecurity.Request.Client
import DeviceSecurity.Request.Options
import DeviceSecurity.Request.Response
import DeviceSecurity.Rsa
import DeviceSecurity.Session
import DeviceSecurity.Signature
import DeviceSecurity.Storage.Backing
import DeviceSecurity.Storage.Codec
import DeviceSecurity.Storage.Device
import DeviceSecurity.Storage.Vault
import DeviceSecurity.Text.Alphanumeric
import DeviceSecurity.Text.Basic
import DeviceSecurity.Text.CombiningClass
import DeviceSecurity.Text.Composition
import DeviceSecurity.Text.Direction
import DeviceSecurity.Text.Folding
import DeviceSecurity.Text.Joining
import DeviceSecurity.Text.Mark
import DeviceSecurity.Text.Pattern
import DeviceSecurity.Text.Printable
import DeviceSecurity.Text.Quoted
import DeviceSecurity.Text.Utf8
import DeviceSecurity.Trust.Certificate
import DeviceSecurity.Trust.Encoding
import DeviceSecurity.Trust.Fault
import DeviceSecurity.Trust.Names
import DeviceSecurity.Trust.Path
import DeviceSecurity.Trust.Pem
import DeviceSecurity.Trust.ServerName
import DeviceSecurity.Trust.Signature
import DeviceSecurity.Trust.Store
