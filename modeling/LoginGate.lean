import LoginGate.CommandLine.Directory
import LoginGate.Lua.Value
import LoginGate.Main
import LoginGate.Policy.Bypass
import LoginGate.Policy.Write
import LoginGate.Proofs.Lua.Matching
import LoginGate.Proofs.Access.TokenMeaning
import LoginGate.Proofs.Access.PathMeaning
import LoginGate.Proofs.Access.SelfMatching
import LoginGate.Proofs.CompilationPass
import LoginGate.Proofs.Filter.ScriptTokens
import LoginGate.Proofs.Identity.Resolving
import LoginGate.Proofs.Lua.Expressions
import LoginGate.Proofs.Lua.Quoting
import LoginGate.Proofs.Policy.OwnPaths
import LoginGate.Proofs.Access.PathShape
import LoginGate.Proofs.Lua.Values
import LoginGate.Proofs.Access.RuleTables
import LoginGate.Proofs.Access.PathAcceptance
import LoginGate.Proofs.Identity.FilledEndpoints
import LoginGate.Proofs.Identity.AppendedProviders
import LoginGate.Proofs.Filter.ScriptBindings
import LoginGate.Proofs.Filter.Consistency
import LoginGate.Proofs.Settings.Keys
import LoginGate.Proofs.Settings.Layers
import LoginGate.Proofs.Settings.Layering
import LoginGate.Proofs.Toml.Quoting
import LoginGate.Proofs.Text.Numerals
import LoginGate.Proofs.Toml.Lines
import LoginGate.Proofs.Toml.WholeNumbers
import LoginGate.Proofs.Toml.Documents
import LoginGate.Proofs.Settings.Document
import LoginGate.Proofs.Text.Runs
import LoginGate.Proofs.Time.Written
import LoginGate.Proofs.Settings.Reloading
import LoginGate.Proofs.CommandLine.ShownSettings
import LoginGate.Proofs.Settings.Variables
import LoginGate.Proofs.Yaml.Gaps
import LoginGate.Proofs.Yaml.Scanning
import LoginGate.Proofs.Yaml.Folds
import LoginGate.Proofs.Yaml.PlainScalars
import LoginGate.Proofs.Yaml.QuotedScalars
import LoginGate.Proofs.Yaml.BlockScalars
import LoginGate.Proofs.Yaml.Steps
import LoginGate.Proofs.Yaml.PlainTexts
import LoginGate.Proofs.Yaml.Texts
import LoginGate.Proofs.Yaml.Brackets
import LoginGate.Proofs.Yaml.Blocks
import LoginGate.Proofs.Yaml.WrittenTokens
import LoginGate.Proofs.Json.Members
import LoginGate.Proofs.Yaml.WrittenEvents
import LoginGate.Proofs.Json.Written
import LoginGate.Proofs.Filter.Formats
import LoginGate.Proofs.CommandLine.Effects
import LoginGate.Proofs.CommandLine.Connecting
import LoginGate.Proofs.Policy.Edits
import LoginGate.Proofs.Policy.WrittenPolicies
import LoginGate.Proofs.Policy.CompactJson
import LoginGate.Proofs.Policy.CompiledDocuments
import LoginGate.Proofs.Time.Seconds
import LoginGate.Proofs.Identity.SpelledPorts
import LoginGate.Proofs.Access.TemplateSlashes
import LoginGate.Proofs.Identity.MockProvider
import LoginGate.Proofs.Identity.Fetching
import LoginGate.Proofs.Filter.LoginParameters
import LoginGate.Proofs.Policy.Bypasses
import LoginGate.Proofs.Policy.FirstFault
import LoginGate.Proofs.Identity.AcceptedProviders
import LoginGate.Proofs.CommandLine.LookingUp
import LoginGate.Proofs.Identity.DisplayedTargets
