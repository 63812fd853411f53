import Scaffold.Admin.Assets
import Scaffold.Admin.Pages
import Scaffold.Api.RequestBodies
import Scaffold.Api.Routes
import Scaffold.Api.Settings
import Scaffold.CommandLine.Arguments
import Scaffold.CommandLine.Run
import Scaffold.Console.Lines
import Scaffold.Console.Markup
import Scaffold.Console.Table
import Scaffold.Files.Disk
import Scaffold.Files.FilePath
import Scaffold.Generation
import Scaffold.Interface.Endpoints
import Scaffold.Interface.Types
import Scaffold.Json.Reader
import Scaffold.Json.Token
import Scaffold.Main
import Scaffold.Manifest.Basic
import Scaffold.Manifest.Discovery
import Scaffold.Manifest.Keys
import Scaffold.Manifest.Loading
import Scaffold.Manifest.Names
import Scaffold.Manifest.Overrides
import Scaffold.Manifest.Reading
import Scaffold.Manifest.Shape
import Scaffold.Manifest.Source
import Scaffold.Manifest.Validation
import Scaffold.Manifest.Value
import Scaffold.Number.Binary64
import Scaffold.Number.Decimal
import Scaffold.Page.AdminIndex
import Scaffold.Page.AdminScript
import Scaffold.Page.AdminStyle
import Scaffold.Page.ApiDocs
import Scaffold.Page.Bundled
import Scaffold.Page.Components
import Scaffold.Page.ConfigModule
import Scaffold.Page.DetailPage
import Scaffold.Page.Fill
import Scaffold.Page.Filter
import Scaffold.Page.ListPage
import Scaffold.Page.NewPage
import Scaffold.Page.RouterModule
import Scaffold.Page.Template
import Scaffold.Plugin.Registry
import Scaffold.Proofs.Admin.AssetsModule
import Scaffold.Proofs.Admin.Conflicts
import Scaffold.Proofs.Admin.Markup
import Scaffold.Proofs.Admin.OwnPages
import Scaffold.Proofs.Api.Settings
import Scaffold.Proofs.Files.Edits
import Scaffold.Proofs.Files.Occupants
import Scaffold.Proofs.Files.Segments
import Scaffold.Proofs.Generation.Alike
import Scaffold.Proofs.Generation.Apart
import Scaffold.Proofs.Generation.Artifacts
import Scaffold.Proofs.Generation.Completion
import Scaffold.Proofs.Generation.Declarations
import Scaffold.Proofs.Generation.Filled
import Scaffold.Proofs.Generation.Notes
import Scaffold.Proofs.Generation.Targets
import Scaffold.Proofs.Interface.Members
import Scaffold.Proofs.Manifest.Alike
import Scaffold.Proofs.Manifest.Discovery
import Scaffold.Proofs.Manifest.Faults
import Scaffold.Proofs.Manifest.FieldIssues
import Scaffold.Proofs.Manifest.Loading
import Scaffold.Proofs.Manifest.Merging
import Scaffold.Proofs.Manifest.Remembered
import Scaffold.Proofs.Manifest.Revalidation
import Scaffold.Proofs.Manifest.Validation
import Scaffold.Proofs.Number.Numerals
import Scaffold.Proofs.Page.Guarded
import Scaffold.Proofs.Page.Shapes
import Scaffold.Proofs.Page.Written
import Scaffold.Proofs.Plugin.Runs
import Scaffold.Proofs.Records.Columns
import Scaffold.Proofs.Records.Key
import Scaffold.Proofs.Schema.Absence
import Scaffold.Proofs.Schema.Literals
import Scaffold.Proofs.Schema.PathText
import Scaffold.Proofs.Schema.Places
import Scaffold.Proofs.Schema.ReportLines
import Scaffold.Proofs.Sql.ColumnNames
import Scaffold.Proofs.Sql.Database
import Scaffold.Proofs.Sql.DefaultClauses
import Scaffold.Proofs.Sql.Idle
import Scaffold.Proofs.Sql.IndexNames
import Scaffold.Proofs.Sql.Rollback
import Scaffold.Proofs.Sql.Versions
import Scaffold.Proofs.Text.Docstrings
import Scaffold.Proofs.Text.Split
import Scaffold.Proofs.Value.Brackets
import Scaffold.Proofs.Value.Chunks
import Scaffold.Proofs.Value.Evaluation
import Scaffold.Proofs.Value.LaidOut
import Scaffold.Proofs.Value.Loaded
import Scaffold.Proofs.Workspace.Footprint
import Scaffold.Proofs.Workspace.OwnFiles
import Scaffold.Proofs.Workspace.Saved
import Scaffold.Proofs.Workspace.Skipped
import Scaffold.Records.Body
import Scaffold.Records.Mapped
import Scaffold.Schema.Basic
import Scaffold.Schema.Report
import Scaffold.Schema.Walk
import Scaffold.Sql.Migration
import Scaffold.Sql.Statement
import Scaffold.Text.Case
import Scaffold.Text.Characters
import Scaffold.Text.Emoji
import Scaffold.Text.Pattern
import Scaffold.Text.Printable
import Scaffold.Text.Quoted
import Scaffold.Text.Split
import Scaffold.Text.Utf8
import Scaffold.Text.Width
import Scaffold.Time.Iso
import Scaffold.Time.Moment
import Scaffold.Value.Basic
import Scaffold.Value.Coerce
import Scaffold.Value.JsonText
import Scaffold.Value.Layout
import Scaffold.Value.Literal
import Scaffold.Value.Order
import Scaffold.Workspace.Config
import Scaffold.Workspace.Plan
import Scaffold.Workspace.Setup
import Scaffold.Yaml.Cursor
import Scaffold.Yaml.Kind
import Scaffold.Yaml.Node
import Scaffold.Yaml.Reading
import Scaffold.Yaml.Scalar
import Scaffold.Yaml.Scalars
import Scaffold.Yaml.Tag
import Scaffold.Yaml.Token
import Scaffold.Yaml.Tokens
