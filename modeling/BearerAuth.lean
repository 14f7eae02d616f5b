import BearerAuth.Environment.FileTree
import BearerAuth.Main
import BearerAuth.Proofs.Binary64
import BearerAuth.Proofs.Json.Numeral
import BearerAuth.Proofs.Json.Quote
import BearerAuth.Proofs.Json.RoundTrip
import BearerAuth.Proofs.Claims.Payload
import BearerAuth.Proofs.Claims.Operations
import BearerAuth.Proofs.Claims.Wire
import BearerAuth.Proofs.Claims.Shape
import BearerAuth.Proofs.Token.Segments
import BearerAuth.Proofs.Token.Policy
import BearerAuth.Proofs.Trust
import BearerAuth.Proofs.Oidc.Refinement
import BearerAuth.Proofs.Oidc.KeySet
import BearerAuth.Proofs.Token.Issued
import BearerAuth.Proofs.Token.RoundTrip
import BearerAuth.Proofs.Context.Credential
import BearerAuth.Proofs.Delivery
import BearerAuth.Proofs.Json.Decimal
import BearerAuth.Proofs.Token.Reissue
import BearerAuth.Proofs.Oidc.Connection
import BearerAuth.Proofs.Oidc.Issuer
import BearerAuth.Proofs.EntryPoints
import BearerAuth.Proofs.Config.Expansion
import BearerAuth.Proofs.Config.RoundTrip
import BearerAuth.Proofs.Instant
import BearerAuth.Proofs.Context.Hop
import BearerAuth.Proofs.Token.Window
import BearerAuth.Proofs.Config.Template
import BearerAuth.Proofs.Claims.Projection
import BearerAuth.Proofs.Oidc.Lookup
import BearerAuth.Proofs.Outbound
import BearerAuth.Proofs.Claims.Setting
import BearerAuth.Proofs.Claims.Removal
import BearerAuth.Proofs.Oidc.IdToken
import BearerAuth.Proofs.Oidc.AccessToken
import BearerAuth.Proofs.Claims.Dates
import BearerAuth.Proofs.Context.Isolation
import BearerAuth.Proofs.CommandLine.Lifetime
import BearerAuth.Proofs.Config.Signing
import BearerAuth.Proofs.Json.Tree
import BearerAuth.Proofs.Config.Reading
import BearerAuth.Proofs.Config.Shape
import BearerAuth.Proofs.Context.Scheme
import BearerAuth.Crypto.Ed25519
import BearerAuth.Proofs.Json.Bytes
