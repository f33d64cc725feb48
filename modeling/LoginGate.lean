import LoginGate.Bytes.Base64Url
import LoginGate.Bytes.Hex
import LoginGate.Bytes.Lossy
import LoginGate.Bytes.Utf8
import LoginGate.Command
import LoginGate.Digest.Blake2b
import LoginGate.Digest.Blake2s
import LoginGate.Digest.Hash
import LoginGate.Digest.Hmac
import LoginGate.Digest.LittleEndian
import LoginGate.Digest.Md5
import LoginGate.Digest.Ripemd160
import LoginGate.Digest.Scrypt
import LoginGate.Digest.Sha1
import LoginGate.Digest.Sha256
import LoginGate.Digest.Sha3
import LoginGate.Digest.Sha512
import LoginGate.Digest.Sm3
import LoginGate.Failure
import LoginGate.Field
import LoginGate.Form
import LoginGate.Http.Client
import LoginGate.Http.Cookie
import LoginGate.Http.Date
import LoginGate.Http.Fields
import LoginGate.Http.Host
import LoginGate.Http.Message
import LoginGate.Http.Origin
import LoginGate.Http.Parameters
import LoginGate.Http.Percent
import LoginGate.Http.Reference
import LoginGate.Http.Route
import LoginGate.Http.Site
import LoginGate.Http.Target
import LoginGate.Instant
import LoginGate.Json.Encoded
import LoginGate.Json.Reader
import LoginGate.Json.Value
import LoginGate.Json.Writer
import LoginGate.Log.Arguments
import LoginGate.Log.Format
import LoginGate.Log.Item
import LoginGate.Log.Kind
import LoginGate.Log.KindTable
import LoginGate.Log.Level
import LoginGate.Log.Relay
import LoginGate.Log.Sink
import LoginGate.Log.Template
import LoginGate.Main
import LoginGate.Number.Binary64
import LoginGate.Number.IntegerText
import LoginGate.Number.Places
import LoginGate.Number.Shortest
import LoginGate.Password.Hash
import LoginGate.Password.Method
import LoginGate.Pattern.Basic
import LoginGate.Pattern.Matches
import LoginGate.Pattern.Reader
import LoginGate.Proofs.Act
import LoginGate.Proofs.Clock
import LoginGate.Proofs.Effect
import LoginGate.Proofs.Endings
import LoginGate.Proofs.Http.Cookies
import LoginGate.Proofs.Http.Delivery
import LoginGate.Proofs.Http.Denials
import LoginGate.Proofs.Http.Exchange
import LoginGate.Proofs.Http.Frame
import LoginGate.Proofs.Http.Sharing
import LoginGate.Proofs.Identifiers
import LoginGate.Proofs.Json
import LoginGate.Proofs.Loaded
import LoginGate.Proofs.Log.Relay
import LoginGate.Proofs.Numerals
import LoginGate.Proofs.Password
import LoginGate.Proofs.Password.Verdict
import LoginGate.Proofs.Redact.Keyed
import LoginGate.Proofs.Redact.Leads
import LoginGate.Proofs.Redact.Parts
import LoginGate.Proofs.Redact.Passes
import LoginGate.Proofs.Redact.Scan
import LoginGate.Proofs.Redact.Secrets
import LoginGate.Proofs.Redact.Settled
import LoginGate.Proofs.Redact.Starless
import LoginGate.Proofs.Redact.Tokens
import LoginGate.Proofs.Redact.Twice
import LoginGate.Proofs.Redact.Wear
import LoginGate.Proofs.Refresh.Halves
import LoginGate.Proofs.Refresh.Minting
import LoginGate.Proofs.Refresh.Outcome
import LoginGate.Proofs.Refresh.Revocation
import LoginGate.Proofs.Refresh.SingleUse
import LoginGate.Proofs.Refresh.Sweep
import LoginGate.Proofs.Run
import LoginGate.Proofs.Run.Acceptance
import LoginGate.Proofs.Run.Access
import LoginGate.Proofs.Run.Accounts
import LoginGate.Proofs.Run.Credentials
import LoginGate.Proofs.Run.Ledger
import LoginGate.Proofs.Run.Records
import LoginGate.Proofs.Run.Registration
import LoginGate.Proofs.Secure
import LoginGate.Proofs.Sessions
import LoginGate.Proofs.Setup
import LoginGate.Proofs.Signing
import LoginGate.Proofs.Storage
import LoginGate.Proofs.Storage.Frame
import LoginGate.Proofs.Storage.Logins
import LoginGate.Proofs.Tables
import LoginGate.Proofs.Token
import LoginGate.Proofs.Token.Authentic
import LoginGate.Proofs.Token.Lifespan
import LoginGate.Proofs.Token.Window
import LoginGate.Proofs.Utf8
import LoginGate.Redact.Keyed
import LoginGate.Redact.Rules
import LoginGate.Redact.Scan
import LoginGate.Registration
import LoginGate.Service.Argument
import LoginGate.Service.Basic
import LoginGate.Service.Block
import LoginGate.Service.Login
import LoginGate.Service.Logout
import LoginGate.Service.Refresh
import LoginGate.Service.Register
import LoginGate.Service.Verify
import LoginGate.Session
import LoginGate.Settings.Config
import LoginGate.Settings.Dotenv
import LoginGate.Settings.Engine
import LoginGate.Settings.Numeral
import LoginGate.Settings.Section
import LoginGate.Store
import LoginGate.Store.Document
import LoginGate.Store.Transaction
import LoginGate.Text.Blank
import LoginGate.Text.Case
import LoginGate.Text.CaseTable
import LoginGate.Text.Category
import LoginGate.Text.CharName
import LoginGate.Text.Cuts
import LoginGate.Text.Digit
import LoginGate.Text.Printable
import LoginGate.Text.Punycode
import LoginGate.Text.Quoted
import LoginGate.Text.Remove
import LoginGate.Text.Split
import LoginGate.Text.Word
import LoginGate.Token.Claims
import LoginGate.Token.Key
import LoginGate.Token.Signer
import LoginGate.Uuid
import LoginGate.World
