import JiraQuery.Cache.Metadata
import JiraQuery.Cache.Scoped
import JiraQuery.Cache.Store
import JiraQuery.Calendar
import JiraQuery.Config.Basic
import JiraQuery.Config.Error
import JiraQuery.Config.File
import JiraQuery.Config.Profile
import JiraQuery.Config.Settings
import JiraQuery.Disk
import JiraQuery.Error
import JiraQuery.Handle.Basic
import JiraQuery.Handle.Collections
import JiraQuery.Handle.Lookups
import JiraQuery.Handle.Query
import JiraQuery.Json.Basic
import JiraQuery.Json.Members
import JiraQuery.Json.Parser
import JiraQuery.Json.Printer
import JiraQuery.Json.Wire
import JiraQuery.Log.Event
import JiraQuery.Log.Filter
import JiraQuery.Log.Setup
import JiraQuery.Metadata.CreateMeta
import JiraQuery.Metadata.CustomField
import JiraQuery.Metadata.Entity
import JiraQuery.Metadata.Issue
import JiraQuery.Metadata.Lookup
import JiraQuery.Metadata.Project
import JiraQuery.Metadata.Saved
import JiraQuery.Net.Auth
import JiraQuery.Net.Client
import JiraQuery.Net.Error
import JiraQuery.Net.Link
import JiraQuery.Net.Path
import JiraQuery.Net.Request
import JiraQuery.Net.Response
import JiraQuery.Net.ServerUrl
import JiraQuery.Net.Status
import JiraQuery.Number.Checked
import JiraQuery.Number.DecimalText
import JiraQuery.Number.Saturating
import JiraQuery.Number.Shortest
import JiraQuery.Pattern.Basic
import JiraQuery.Pattern.Parser
import JiraQuery.Pattern.Scanner
import JiraQuery.Pattern.Support
import JiraQuery.Proofs.Cache.Callers
import JiraQuery.Proofs.Cache.Finding
import JiraQuery.Proofs.Cache.Growth
import JiraQuery.Proofs.Cache.History
import JiraQuery.Proofs.Cache.Scopes
import JiraQuery.Proofs.Cache.SingleFlight
import JiraQuery.Proofs.Config.Adjusting
import JiraQuery.Proofs.Config.Choosing
import JiraQuery.Proofs.Config.Files
import JiraQuery.Proofs.Config.Saving
import JiraQuery.Proofs.Handle.Addressing
import JiraQuery.Proofs.Handle.Calls
import JiraQuery.Proofs.Handle.Connecting
import JiraQuery.Proofs.Handle.Consumers
import JiraQuery.Proofs.Handle.Memory
import JiraQuery.Proofs.Handle.Naming
import JiraQuery.Proofs.Handle.PageSizes
import JiraQuery.Proofs.Handle.Reductions
import JiraQuery.Proofs.Handle.Repeated
import JiraQuery.Proofs.Handle.Results
import JiraQuery.Proofs.Handle.ScopeFields
import JiraQuery.Proofs.Handle.Statuses
import JiraQuery.Proofs.Jql.Clause
import JiraQuery.Proofs.Jql.Grammar
import JiraQuery.Proofs.Jql.InStep
import JiraQuery.Proofs.Jql.Lexeme
import JiraQuery.Proofs.Jql.Masking
import JiraQuery.Proofs.Jql.Rules
import JiraQuery.Proofs.Json.Members
import JiraQuery.Proofs.Json.Numeral
import JiraQuery.Proofs.Json.Readable
import JiraQuery.Proofs.Json.Rereading
import JiraQuery.Proofs.Metadata.Documents
import JiraQuery.Proofs.Metadata.Offered
import JiraQuery.Proofs.Metadata.Plain
import JiraQuery.Proofs.Metadata.Undeclared
import JiraQuery.Proofs.Metadata.WireTypes
import JiraQuery.Proofs.Net.Addresses
import JiraQuery.Proofs.Net.Asking
import JiraQuery.Proofs.Net.NormalForms
import JiraQuery.Proofs.Net.Paths
import JiraQuery.Proofs.Net.Retrying
import JiraQuery.Proofs.Net.Sending
import JiraQuery.Proofs.Net.Transience
import JiraQuery.Proofs.Number.Nearest
import JiraQuery.Proofs.Outcome
import JiraQuery.Proofs.Query.Canonical
import JiraQuery.Proofs.Query.Clause
import JiraQuery.Proofs.Query.Cutting
import JiraQuery.Proofs.Query.Drafting
import JiraQuery.Proofs.Query.Grouping
import JiraQuery.Proofs.Query.Kinds
import JiraQuery.Proofs.Query.Likeness
import JiraQuery.Proofs.Query.Meaning
import JiraQuery.Proofs.Query.Narrowing
import JiraQuery.Proofs.Query.Reading
import JiraQuery.Proofs.Query.Renaming
import JiraQuery.Proofs.Query.Resolving
import JiraQuery.Proofs.Query.Retexting
import JiraQuery.Proofs.Query.Spelling
import JiraQuery.Proofs.Query.Splitting
import JiraQuery.Proofs.Query.Validity
import JiraQuery.Proofs.Query.Values
import JiraQuery.Proofs.Query.Word
import JiraQuery.Proofs.Query.Wording
import JiraQuery.Proofs.Search.Activity
import JiraQuery.Proofs.Search.Laziness
import JiraQuery.Proofs.Search.Orderly
import JiraQuery.Proofs.Search.PageSizes
import JiraQuery.Proofs.Search.Paging
import JiraQuery.Proofs.Search.Serving
import JiraQuery.Proofs.Search.Streaming
import JiraQuery.Proofs.Search.Transcript
import JiraQuery.Proofs.Text.Percent
import JiraQuery.Proofs.Toml.Quoting
import JiraQuery.Proofs.Toml.Rendered
import JiraQuery.Proofs.Toml.Tables
import JiraQuery.Proofs.Toml.Tree
import JiraQuery.Proofs.Toml.Values
import JiraQuery.Proofs.Toml.Wholes
import JiraQuery.Query.Catalog
import JiraQuery.Query.Condition
import JiraQuery.Query.Error
import JiraQuery.Query.Expr
import JiraQuery.Query.Field
import JiraQuery.Query.Literal
import JiraQuery.Query.Translation
import JiraQuery.Search.Page
import JiraQuery.Search.Pager
import JiraQuery.Search.Stream
import JiraQuery.Session
import JiraQuery.Text.AlphanumericTable
import JiraQuery.Text.Base64
import JiraQuery.Text.Blank
import JiraQuery.Text.Bytes
import JiraQuery.Text.CaseTable
import JiraQuery.Text.Escaped
import JiraQuery.Text.Joined
import JiraQuery.Text.Lowercase
import JiraQuery.Text.Percent
import JiraQuery.Text.Quoted
import JiraQuery.Text.VisibleTable
import JiraQuery.Toml.Number
import JiraQuery.Toml.Parser
import JiraQuery.Toml.Printer
import JiraQuery.Toml.Text
import JiraQuery.Toml.Tree
