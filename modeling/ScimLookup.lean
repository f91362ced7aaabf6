import ScimLookup.Bytes.Base64
import ScimLookup.Bytes.Percent
import ScimLookup.Bytes.Sha512
import ScimLookup.Bytes.Utf8
import ScimLookup.Command.Error
import ScimLookup.Command.Grammar
import ScimLookup.Command.Inquiry
import ScimLookup.Command.Invocation
import ScimLookup.Command.Lookup
import ScimLookup.Command.Needs
import ScimLookup.Command.Word
import ScimLookup.Host.Error
import ScimLookup.Host.Membership
import ScimLookup.Host.Message
import ScimLookup.Host.Service
import ScimLookup.Http.Exchange
import ScimLookup.Http.Header
import ScimLookup.Http.Status
import ScimLookup.Json.Document
import ScimLookup.Json.Reader
import ScimLookup.Json.Value
import ScimLookup.Main
import ScimLookup.Number.Decimal
import ScimLookup.Number.Double
import ScimLookup.Number.Shortest
import ScimLookup.Proofs.Bytes.Base64
import ScimLookup.Proofs.Bytes.Percent
import ScimLookup.Proofs.Command.ContextArguments
import ScimLookup.Proofs.Command.ContextEntry
import ScimLookup.Proofs.Command.ExitCode
import ScimLookup.Proofs.Command.Printed
import ScimLookup.Proofs.Command.Reading
import ScimLookup.Proofs.Command.SameClient
import ScimLookup.Proofs.Command.Venture
import ScimLookup.Proofs.Host.Consistency
import ScimLookup.Proofs.Host.ContextKeys
import ScimLookup.Proofs.Host.ListQuestion
import ScimLookup.Proofs.Host.Message
import ScimLookup.Proofs.Host.Reconfiguration
import ScimLookup.Proofs.Host.Refusal
import ScimLookup.Proofs.Host.Resolution
import ScimLookup.Proofs.Host.SentFilter
import ScimLookup.Proofs.Host.Traversal
import ScimLookup.Proofs.Http.Interleaving
import ScimLookup.Proofs.Http.Journal
import ScimLookup.Proofs.Json.Numeral
import ScimLookup.Proofs.Json.Quoted
import ScimLookup.Proofs.Json.ReadBack
import ScimLookup.Proofs.Json.Spelling
import ScimLookup.Proofs.Json.Variation
import ScimLookup.Proofs.Json.Written
import ScimLookup.Proofs.Number.Decimal
import ScimLookup.Proofs.Scim.Aiming
import ScimLookup.Proofs.Scim.BasicHeader
import ScimLookup.Proofs.Scim.Bearer
import ScimLookup.Proofs.Scim.Destination
import ScimLookup.Proofs.Scim.Ending
import ScimLookup.Proofs.Scim.Errand
import ScimLookup.Proofs.Scim.FilterText
import ScimLookup.Proofs.Scim.Grant
import ScimLookup.Proofs.Scim.Lifetime
import ScimLookup.Proofs.Scim.Likeness
import ScimLookup.Proofs.Scim.ListRequest
import ScimLookup.Proofs.Scim.ListedItems
import ScimLookup.Proofs.Scim.Lookup
import ScimLookup.Proofs.Scim.Provenance
import ScimLookup.Proofs.Scim.ResourceAddress
import ScimLookup.Proofs.Scim.Secrecy
import ScimLookup.Proofs.Scim.SentHeaders
import ScimLookup.Proofs.Scim.SentQuery
import ScimLookup.Proofs.Scim.SharedToken
import ScimLookup.Proofs.Scim.TokenHistory
import ScimLookup.Proofs.Scim.TokenStages
import ScimLookup.Proofs.Scim.Variation
import ScimLookup.Proofs.Settings.Parameter
import ScimLookup.Proofs.Settings.Placement
import ScimLookup.Proofs.Settings.Reference
import ScimLookup.Proofs.Settings.Sequence
import ScimLookup.Proofs.Settings.Stage
import ScimLookup.Proofs.Url.Below
import ScimLookup.Proofs.Url.Directory
import ScimLookup.Proofs.Url.Form
import ScimLookup.Proofs.Url.Host
import ScimLookup.Proofs.Url.Query
import ScimLookup.Scim.Client
import ScimLookup.Scim.Credentials
import ScimLookup.Scim.Error
import ScimLookup.Scim.Filter
import ScimLookup.Scim.ListRequest
import ScimLookup.Scim.Resource
import ScimLookup.Settings.Configuration
import ScimLookup.Settings.Params
import ScimLookup.Settings.Source
import ScimLookup.Surroundings.Basic
import ScimLookup.Surroundings.Folder
import ScimLookup.Text.Blank
import ScimLookup.Text.Composition
import ScimLookup.Text.Direction
import ScimLookup.Text.Joining
import ScimLookup.Text.Mark
import ScimLookup.Text.Pieces
import ScimLookup.Text.Printable
import ScimLookup.Text.Quoted
import ScimLookup.Text.Table
import ScimLookup.Tls.Certificate
import ScimLookup.Tls.Curve
import ScimLookup.Tls.Element
import ScimLookup.Tls.Identity
import ScimLookup.Tls.Pem
import ScimLookup.Tls.PublicKey
import ScimLookup.Url.Basic
import ScimLookup.Url.DomainName
import ScimLookup.Url.Form
import ScimLookup.Url.Host
import ScimLookup.Url.NameForm
import ScimLookup.Url.Punycode
import ScimLookup.Yaml.Cursor
import ScimLookup.Yaml.Node
import ScimLookup.Yaml.Scalar
import ScimLookup.Yaml.Token
import ScimLookup.Yaml.Value
import ScimLookup.Tls.Connector
