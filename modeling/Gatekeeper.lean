import Gatekeeper.Audit.Sink
import Gatekeeper.Audit.Trail
import Gatekeeper.Codec.Base64
import Gatekeeper.Codec.Der
import Gatekeeper.Codec.Pem
import Gatekeeper.CommandLine
import Gatekeeper.Config.Audit
import Gatekeeper.Config.Expansion
import Gatekeeper.Config.Fault
import Gatekeeper.Config.IdentityProvider
import Gatekeeper.Config.Load
import Gatekeeper.Config.Logs
import Gatekeeper.Config.Paths
import Gatekeeper.Config.RelationBackend
import Gatekeeper.Config.Section
import Gatekeeper.Config.Server
import Gatekeeper.Config.Target
import Gatekeeper.Crypto.Rsa
import Gatekeeper.Crypto.Sha2
import Gatekeeper.Decision.Engine
import Gatekeeper.Decision.Policy
import Gatekeeper.Decision.Record
import Gatekeeper.FileTree
import Gatekeeper.Http.Credential
import Gatekeeper.Http.Exchange
import Gatekeeper.Http.Request
import Gatekeeper.Http.Response
import Gatekeeper.Http.Wire
import Gatekeeper.Identity.Claims
import Gatekeeper.Identity.ClaimsCache
import Gatekeeper.Identity.Identifier
import Gatekeeper.Identity.KeySet
import Gatekeeper.Identity.Rules
import Gatekeeper.Identity.Token
import Gatekeeper.Json.Basic
import Gatekeeper.Json.Document
import Gatekeeper.Json.Writer
import Gatekeeper.Main
import Gatekeeper.Number.Double
import Gatekeeper.Relation.Answer
import Gatekeeper.Relation.CheckClient
import Gatekeeper.Relation.Query
import Gatekeeper.Service.Answer
import Gatekeeper.Service.Assembly
import Gatekeeper.Service.Boundary
import Gatekeeper.Service.Launch
import Gatekeeper.Service.RequestId
import Gatekeeper.Service.Route
import Gatekeeper.Service.Tls
import Gatekeeper.Target
import Gatekeeper.Text.Alphanumeric
import Gatekeeper.Text.Blank
import Gatekeeper.Text.DateTime
import Gatekeeper.Text.Mark
import Gatekeeper.Text.Quoted
import Gatekeeper.Text.Utf8
import Gatekeeper.Token.Algorithm
import Gatekeeper.Token.Header
import Gatekeeper.Token.Key
import Gatekeeper.Token.Validation
import Gatekeeper.Toml.Basic
import Gatekeeper.Toml.Reader
import Gatekeeper.Url.Basic
import Gatekeeper.Url.Domain
import Gatekeeper.Url.Host
import Gatekeeper.Proofs.Audit.Lines
import Gatekeeper.Proofs.Audit.Reopening
import Gatekeeper.Proofs.Config.CheckUrl
import Gatekeeper.Proofs.Config.Completion
import Gatekeeper.Proofs.Config.Numbers
import Gatekeeper.Proofs.Config.Reliance
import Gatekeeper.Proofs.Config.Secrecy
import Gatekeeper.Proofs.Config.TextOptions
import Gatekeeper.Proofs.Crypto.Signature
import Gatekeeper.Proofs.Decision.Coherence
import Gatekeeper.Proofs.Decision.Fallback
import Gatekeeper.Proofs.Decision.Law
import Gatekeeper.Proofs.Decision.Recording
import Gatekeeper.Proofs.FileTree
import Gatekeeper.Proofs.Http.Extraction
import Gatekeeper.Proofs.Identity.CacheHistory
import Gatekeeper.Proofs.Identity.CacheInterleaving
import Gatekeeper.Proofs.Identity.CacheVisibility
import Gatekeeper.Proofs.Identity.CanonicalIds
import Gatekeeper.Proofs.Identity.FetchPace
import Gatekeeper.Proofs.Identity.KeyHistory
import Gatekeeper.Proofs.Identity.KeyInterleaving
import Gatekeeper.Proofs.Identity.Outage
import Gatekeeper.Proofs.Identity.Refresh
import Gatekeeper.Proofs.Interleaving
import Gatekeeper.Proofs.Json.Grammar
import Gatekeeper.Proofs.Json.Reading
import Gatekeeper.Proofs.Json.Writing
import Gatekeeper.Proofs.Lookup
import Gatekeeper.Proofs.Relation.AnswerClasses
import Gatekeeper.Proofs.Relation.Checks
import Gatekeeper.Proofs.Relation.Grammar
import Gatekeeper.Proofs.Relation.Tuples
import Gatekeeper.Proofs.Service.Account
import Gatekeeper.Proofs.Service.Admission
import Gatekeeper.Proofs.Service.Forwarding
import Gatekeeper.Proofs.Service.Objects
import Gatekeeper.Proofs.Service.Passage
import Gatekeeper.Proofs.Service.ServedRoute
import Gatekeeper.Proofs.Service.Targets
import Gatekeeper.Proofs.Service.Traffic
import Gatekeeper.Proofs.Target.Completion
import Gatekeeper.Proofs.Target.Segments
import Gatekeeper.Proofs.Target.Variants
import Gatekeeper.Proofs.Text.Utf8
import Gatekeeper.Proofs.Text.Words
import Gatekeeper.Proofs.Token.Acceptance
import Gatekeeper.Proofs.Token.Binding
import Gatekeeper.Proofs.Token.Naming
import Gatekeeper.Proofs.Token.Soundness
import Gatekeeper.Proofs.Url.Below
import Gatekeeper.Proofs.Url.Hosts
import Gatekeeper.Proofs.Url.Paths
import Gatekeeper.Proofs.Url.Reading
