import LayeredConfig.Outcome
import LayeredConfig.Text.Case
import LayeredConfig.Text.Blank
import LayeredConfig.Text.Graphic
import LayeredConfig.Text.Letter
import LayeredConfig.Decimal.Shortest
import LayeredConfig.Decimal.Numeral
import LayeredConfig.Text.Quoted
import LayeredConfig.Text.Utf8
import LayeredConfig.Document.Basic
import LayeredConfig.Document.Display
import LayeredConfig.Duration.Reader
import LayeredConfig.Network.Address
import LayeredConfig.Schema.Decode
import LayeredConfig.Schema.Encode
import LayeredConfig.Yaml.Tokens
import LayeredConfig.Yaml.Reader
import LayeredConfig.Yaml.Writer
import LayeredConfig.Toml.Reader
import LayeredConfig.Environment.Override
import LayeredConfig.Files.Path
import LayeredConfig.Files.Tree
import LayeredConfig.Source.Loader
import LayeredConfig.Resolution.Basic
import LayeredConfig.Lifecycle.Scenario
import LayeredConfig.Logging.Directive
import LayeredConfig.Logging.Filter
import LayeredConfig.Service.World
import LayeredConfig.Service.Serve
import LayeredConfig.CommandLine.Program
import LayeredConfig.Main
import LayeredConfig.Proofs.Lifecycle.StopOnce
import LayeredConfig.Proofs.Lifecycle.FirstFailure
import LayeredConfig.Proofs.Lifecycle.Dependence
import LayeredConfig.Proofs.Lifecycle.Rehearsal
import LayeredConfig.Proofs.Resolution.Precedence
import LayeredConfig.Proofs.Resolution.Listing
import LayeredConfig.Proofs.Resolution.Reread
import LayeredConfig.Proofs.Schema.RoundTrip
import LayeredConfig.Proofs.Schema.SinglePaths
import LayeredConfig.Proofs.Schema.Cut
import LayeredConfig.Proofs.Schema.Repetition
import LayeredConfig.Proofs.Schema.Reordering
import LayeredConfig.Proofs.Schema.Frame
import LayeredConfig.Proofs.Environment.Independent
import LayeredConfig.Proofs.Environment.Address
import LayeredConfig.Proofs.Lifecycle.StopFailures
import LayeredConfig.Proofs.Resolution.Output
import LayeredConfig.Proofs.Service.Settings
import LayeredConfig.Proofs.CommandLine.Check
import LayeredConfig.Proofs.CommandLine.PidFile
import LayeredConfig.Proofs.Schema.CommaString
import LayeredConfig.Proofs.Schema.Fault
import LayeredConfig.Proofs.Schema.Growth
import LayeredConfig.Proofs.Schema.Integer
import LayeredConfig.Proofs.Environment.Grammar
import LayeredConfig.Proofs.Schema.Shadow
import LayeredConfig.Proofs.Source.Loading
