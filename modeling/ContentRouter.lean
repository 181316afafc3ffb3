import ContentRouter.Binding.Basic
import ContentRouter.Binding.Role
import ContentRouter.Command.Arguments
import ContentRouter.Command.Loading
import ContentRouter.Command.Request
import ContentRouter.Command.Run
import ContentRouter.Command.Writing
import ContentRouter.Diagnostic
import ContentRouter.Document.Basic
import ContentRouter.Fault
import ContentRouter.File.Path
import ContentRouter.File.Tree
import ContentRouter.Json.Basic
import ContentRouter.Json.Reading
import ContentRouter.Json.Token
import ContentRouter.LogSettings
import ContentRouter.Main
import ContentRouter.Manifest.Declaration
import ContentRouter.Manifest.Reading
import ContentRouter.Proofs.Binding.Acceptance
import ContentRouter.Proofs.Binding.Account
import ContentRouter.Proofs.Binding.Advice
import ContentRouter.Proofs.Binding.Offence
import ContentRouter.Proofs.Binding.Supply
import ContentRouter.Proofs.Command.Advice
import ContentRouter.Proofs.Command.Agreement
import ContentRouter.Proofs.Command.Containment
import ContentRouter.Proofs.Command.Frame
import ContentRouter.Proofs.Command.Placement
import ContentRouter.Proofs.Command.Storing
import ContentRouter.Proofs.File.Change
import ContentRouter.Proofs.File.Emptied
import ContentRouter.Proofs.File.Names
import ContentRouter.Proofs.Lists.Filters
import ContentRouter.Proofs.Lists.Keys
import ContentRouter.Proofs.Round.Acceptance
import ContentRouter.Proofs.Round.Account
import ContentRouter.Proofs.Round.Advice
import ContentRouter.Proofs.Round.Authority
import ContentRouter.Proofs.Round.Candidate
import ContentRouter.Proofs.Round.Conflict
import ContentRouter.Proofs.Round.Extension
import ContentRouter.Proofs.Round.Handler
import ContentRouter.Proofs.Round.Image
import ContentRouter.Proofs.Round.Kept
import ContentRouter.Proofs.Round.Refusal
import ContentRouter.Proofs.Round.Routers
import ContentRouter.Proofs.Round.Separation
import ContentRouter.Proofs.Round.Settlement
import ContentRouter.Proofs.Round.UriError
import ContentRouter.Proofs.Routing.Alias
import ContentRouter.Proofs.Routing.Contents
import ContentRouter.Proofs.Routing.Growth
import ContentRouter.Proofs.Routing.Identifier
import ContentRouter.Proofs.Routing.Normalization
import ContentRouter.Proofs.Routing.Registry
import ContentRouter.Proofs.Routing.Renaming
import ContentRouter.Proofs.Routing.Renumbering
import ContentRouter.Proofs.Routing.Reordering
import ContentRouter.Proofs.Routing.Run
import ContentRouter.Proofs.Routing.StableOrder
import ContentRouter.Proofs.Source.Comment
import ContentRouter.Proofs.Source.Dispatch
import ContentRouter.Proofs.Source.GuardText
import ContentRouter.Proofs.Source.Literal
import ContentRouter.Proofs.Source.MatcherPath
import ContentRouter.Proofs.Source.Partition
import ContentRouter.Proofs.Source.PathArgument
import ContentRouter.Proofs.Source.PathFit
import ContentRouter.Proofs.Source.Placement
import ContentRouter.Proofs.Source.Reach
import ContentRouter.Proofs.Source.Reachability
import ContentRouter.Proofs.Source.Reading
import ContentRouter.Proofs.Source.Rerouting
import ContentRouter.Proofs.Source.Switch
import ContentRouter.Proofs.Template.Authority
import ContentRouter.Proofs.Template.FullEquality
import ContentRouter.Proofs.Template.Grammar
import ContentRouter.Proofs.Template.Part
import ContentRouter.Proofs.Template.Report
import ContentRouter.Proofs.Template.RequestPath
import ContentRouter.Proofs.Template.Requests
import ContentRouter.Proofs.Template.Rewriting
import ContentRouter.Proofs.Template.RoundTrip
import ContentRouter.Proofs.Text.Pieces
import ContentRouter.Proofs.Uri.Path
import ContentRouter.Round.Basic
import ContentRouter.Routing.Encoding
import ContentRouter.Routing.Registry
import ContentRouter.Routing.Router
import ContentRouter.Settings
import ContentRouter.Source.Call
import ContentRouter.Source.Dispatch
import ContentRouter.Source.Reading
import ContentRouter.Source.Rendering
import ContentRouter.Source.Router
import ContentRouter.Source.Text
import ContentRouter.Template.Basic
import ContentRouter.Template.Model
import ContentRouter.Template.Placeholder
import ContentRouter.Text.Characters
import ContentRouter.Text.Composition
import ContentRouter.Text.Pieces
import ContentRouter.Text.Shown
import ContentRouter.Toml.Reading
import ContentRouter.Toml.Scalar
import ContentRouter.Toml.Table
import ContentRouter.Toml.Text
import ContentRouter.Uri.Check
import ContentRouter.Uri.Domain
import ContentRouter.Uri.Host
import ContentRouter.Uri.Mapping
import ContentRouter.Uri.Trait
import ContentRouter.Yaml.CoreSchema
import ContentRouter.Yaml.Cursor
import ContentRouter.Yaml.Property
import ContentRouter.Yaml.Reading
import ContentRouter.Yaml.Scalar
import ContentRouter.Yaml.Token
import ContentRouter.Yaml.Tree
