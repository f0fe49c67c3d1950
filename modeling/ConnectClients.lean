import ConnectClients.ClientModule
import ConnectClients.CommandLine.Run
import ConnectClients.FieldRename
import ConnectClients.GenTemplate.Form
import ConnectClients.GenTemplate.Verification
import ConnectClients.Generation
import ConnectClients.Main
import ConnectClients.ServiceFilter
import ConnectClients.SettingsFile
import ConnectClients.TypesIndex
import ConnectClients.Proofs.Assoc
import ConnectClients.Proofs.Identifier.PascalCase
import ConnectClients.Proofs.Identifier.Paths
import ConnectClients.Proofs.TypesIndex.Builder
import ConnectClients.Proofs.TypesIndex.Bindings
import ConnectClients.Proofs.TypesIndex.Groups
import ConnectClients.Proofs.TypesIndex.Lines
import ConnectClients.Proofs.TypesIndex.IndexFile
import ConnectClients.Proofs.Service.Imports
import ConnectClients.Proofs.Service.Methods
import ConnectClients.Proofs.Service.Declarations
import ConnectClients.Proofs.ClientModule.TypeImports
import ConnectClients.Proofs.GenTemplate.Blocks
import ConnectClients.Proofs.GenTemplate.Values
import ConnectClients.Proofs.GenTemplate.Managed
import ConnectClients.Proofs.GenTemplate.Inputs
import ConnectClients.Proofs.GenTemplate.Plugins
import ConnectClients.Proofs.GenTemplate.RoundTrip
import ConnectClients.Proofs.Files.Path
import ConnectClients.Proofs.Files.Tree
import ConnectClients.Proofs.Files.Operation
import ConnectClients.Proofs.Runs
import ConnectClients.Proofs.Action
import ConnectClients.Proofs.Generation.Services
import ConnectClients.Proofs.Generation.Renames
import ConnectClients.Proofs.Output
import ConnectClients.Proofs.ClientModule.Names
import ConnectClients.Proofs.Generation.Clients
import ConnectClients.Proofs.Generation.Contents
import ConnectClients.Proofs.Files.Closed
import ConnectClients.Proofs.ClientModule.Index
import ConnectClients.Proofs.Pattern.Reading
import ConnectClients.Proofs.Pattern.Replacement
import ConnectClients.Proofs.FieldRename.Declarations
import ConnectClients.Proofs.FieldRename.Renames
import ConnectClients.Proofs.Endings
import ConnectClients.Proofs.Failures
import ConnectClients.Proofs.Yaml.Faults
import ConnectClients.Proofs.Yaml.Readers
import ConnectClients.Proofs.CommandLine.Documents
import ConnectClients.Proofs.Files.Touch
import ConnectClients.Proofs.Files.Listing
import ConnectClients.Proofs.Generation.Frame
import ConnectClients.Proofs.Files.Reset
import ConnectClients.Proofs.Files.Plant
import ConnectClients.Proofs.Generation.Template
import ConnectClients.Proofs.Generation.FailedBuf
import ConnectClients.Proofs.Agreement
import ConnectClients.Proofs.Files.Alike
import ConnectClients.Proofs.Files.Leftovers
import ConnectClients.Proofs.Generation.Alike
import ConnectClients.Proofs.Generation.Stale
import ConnectClients.Proofs.Schema
import ConnectClients.Proofs.GenTemplate.Verification
import ConnectClients.Proofs.Discovery
import ConnectClients.Proofs.Generation.TypeFiles
import ConnectClients.Proofs.FieldRename.Settled
import ConnectClients.Proofs.Text.Utf8
import ConnectClients.Proofs.Generation.Settled
import ConnectClients.Proofs.Repeat
import ConnectClients.Proofs.Generation.Rerun
import ConnectClients.Proofs.Yaml.Places
import ConnectClients.Proofs.Yaml.Scanner
import ConnectClients.Proofs.Yaml.Lines
import ConnectClients.Proofs.Yaml.Tree
import ConnectClients.Proofs.Yaml.PlainValues
import ConnectClients.Proofs.GenTemplate.TemplateLines
import ConnectClients.Proofs.GenTemplate.Loading
import ConnectClients.Proofs.GenTemplate.Excerpts
import ConnectClients.Proofs.Generation.Transport
import ConnectClients.Proofs.Generation.SchemaNames
import ConnectClients.Proofs.Quiet
import ConnectClients.Proofs.Generation.Renaming
import ConnectClients.Proofs.Generation.Unreadable
import ConnectClients.Proofs.Generation.NameSources
import ConnectClients.Proofs.Generation.BufCall
import ConnectClients.Proofs.ModulePath
import ConnectClients.Proofs.Service.ImportStatements
import ConnectClients.Proofs.ClientModule.Specifiers
import ConnectClients.Proofs.ClientModule.Statements
import ConnectClients.Proofs.Pattern.Faults
import ConnectClients.Proofs.ServiceFilter
import ConnectClients.Proofs.Generation.Patterns
import ConnectClients.Proofs.BufModule.SchemaDir
import ConnectClients.Proofs.ClientModule.BindingLines
import ConnectClients.Proofs.Generation.Exports
import ConnectClients.Proofs.Generation.Marked
import ConnectClients.Proofs.Text.Raising
import ConnectClients.Proofs.TypesIndex.Extension
import ConnectClients.Proofs.TypesIndex.Numbering
import ConnectClients.Proofs.Identifier.Twice
import ConnectClients.Proofs.Generation.InputDir
import ConnectClients.Proofs.TypesIndex.Identifiers
import ConnectClients.Proofs.FieldRename.Frame
import ConnectClients.Proofs.FieldRename.MessageTypes
import ConnectClients.Proofs.Text.Stops
import ConnectClients.Proofs.FieldRename.OptionLists
import ConnectClients.Proofs.FieldRename.SchemaFields
import ConnectClients.Proofs.FieldRename.TakenNames
import ConnectClients.Proofs.FieldRename.PropertyNames
import ConnectClients.Proofs.TypesIndex.Search
import ConnectClients.Proofs.Identifier.Spellings
import ConnectClients.Proofs.CommandLine.Flags
import ConnectClients.Proofs.CommandLine.Overriding
