import RestTemplates.Base64
import RestTemplates.Client.Basic
import RestTemplates.Client.Draft
import RestTemplates.Client.Exchange
import RestTemplates.Client.Send
import RestTemplates.Codec
import RestTemplates.Config
import RestTemplates.Decimal.Binary64
import RestTemplates.Decimal.Shortest
import RestTemplates.Diagnostics.Basic
import RestTemplates.Diagnostics.BodyText
import RestTemplates.Diagnostics.Event
import RestTemplates.Diagnostics.Level
import RestTemplates.Diagnostics.Preview
import RestTemplates.Diagnostics.Sink
import RestTemplates.Diagnostics.Stderr
import RestTemplates.Dictionary
import RestTemplates.Duration
import RestTemplates.Error
import RestTemplates.Expectation
import RestTemplates.Form
import RestTemplates.Http.Header
import RestTemplates.Http.Method
import RestTemplates.Http.Status
import RestTemplates.Json.Error
import RestTemplates.Json.Lexer
import RestTemplates.Json.Number
import RestTemplates.Json.Reader
import RestTemplates.Json.Record
import RestTemplates.Json.Value
import RestTemplates.Messages
import RestTemplates.MultiMap
import RestTemplates.Percent
import RestTemplates.Query
import RestTemplates.Request
import RestTemplates.Session
import RestTemplates.Template.Cache
import RestTemplates.Template.Error
import RestTemplates.Template.Path
import RestTemplates.Template.Resolver
import RestTemplates.Template.Url
import RestTemplates.Text.Ascii
import RestTemplates.Text.Blank
import RestTemplates.Text.Quoted
import RestTemplates.Text.Unprintable
import RestTemplates.Text.Utf8
import RestTemplates.Transport.Basic
import RestTemplates.Transport.Mock
import RestTemplates.Unicode.Canonical
import RestTemplates.Unicode.CodeTable
import RestTemplates.Unicode.CombiningClass
import RestTemplates.Unicode.Direction
import RestTemplates.Unicode.Joining
import RestTemplates.Unicode.Mark
import RestTemplates.Unicode.Normal
import RestTemplates.Unicode.Ranges
import RestTemplates.Unicode.Unassigned
import RestTemplates.Url.Basic
import RestTemplates.Url.Domain
import RestTemplates.Url.Domain.Bidi
import RestTemplates.Url.Domain.Label
import RestTemplates.Url.Domain.Mapping
import RestTemplates.Url.Host
import RestTemplates.Url.Ipv4
import RestTemplates.Url.Ipv6
import RestTemplates.Url.Path
import RestTemplates.Url.Punycode
import RestTemplates.Proofs.BaseUrl
import RestTemplates.Proofs.Chunking
import RestTemplates.Proofs.Client.Building
import RestTemplates.Proofs.Client.Origin
import RestTemplates.Proofs.Client.Reading
import RestTemplates.Proofs.Client.Reports
import RestTemplates.Proofs.Client.Secrecy
import RestTemplates.Proofs.Client.StatusErrors
import RestTemplates.Proofs.Client.Tagging
import RestTemplates.Proofs.Client.TargetPath
import RestTemplates.Proofs.Client.TargetQuery
import RestTemplates.Proofs.Client.Transmission
import RestTemplates.Proofs.Dictionary
import RestTemplates.Proofs.Errand
import RestTemplates.Proofs.Form
import RestTemplates.Proofs.Http.Secrets
import RestTemplates.Proofs.MultiMap
import RestTemplates.Proofs.Observation
import RestTemplates.Proofs.Percent
import RestTemplates.Proofs.Query
import RestTemplates.Proofs.Secrecy
import RestTemplates.Proofs.Session
import RestTemplates.Proofs.Template.CacheHistory
import RestTemplates.Proofs.Template.Cells
import RestTemplates.Proofs.Template.Distinct
import RestTemplates.Proofs.Template.DotSegments
import RestTemplates.Proofs.Template.Grammar
import RestTemplates.Proofs.Template.Rereading
import RestTemplates.Proofs.Transport.Mock
import RestTemplates.Proofs.Url.Path
import RestTemplates.Proofs.Url.Query
import RestTemplates.Proofs.Template.Faults
import RestTemplates.Proofs.Template.Substitution
import RestTemplates.Proofs.BodyText
import RestTemplates.Proofs.Client.ErrorBodies
import RestTemplates.Proofs.Client.Headers
import RestTemplates.Proofs.Client.Reordering
import RestTemplates.Proofs.Form.Reading
import RestTemplates.Proofs.Query.Grammar
import RestTemplates.Proofs.Template.RawParts
import RestTemplates.Proofs.Base64
import RestTemplates.Proofs.Text.Pieces
import RestTemplates.Proofs.Preview
import RestTemplates.Proofs.Query.Merging
import RestTemplates.Proofs.Client.Agreement
import RestTemplates.Proofs.Client.Decoding
import RestTemplates.Proofs.Base64.Decoding
import RestTemplates.Proofs.BodyText.Binary
import RestTemplates.Proofs.Client.Timeouts
import RestTemplates.Proofs.Json.Objects
import RestTemplates.Proofs.Json.Strings
import RestTemplates.Proofs.Messages.Addressing
import RestTemplates.Proofs.Messages.Bodies
import RestTemplates.Proofs.Messages.Targets
import RestTemplates.Proofs.Query.Groups
