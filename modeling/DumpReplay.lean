import DumpReplay.Adapters
import DumpReplay.CommandLine.Dispatch
import DumpReplay.CommandLine.Flag
import DumpReplay.CommandLine.Reading
import DumpReplay.CommandLine.Splitting
import DumpReplay.Compiler
import DumpReplay.Distribution
import DumpReplay.Distribution.Acquisition
import DumpReplay.Dump.Artifact
import DumpReplay.Dump.Opening
import DumpReplay.Dump.Summary
import DumpReplay.Failure
import DumpReplay.Host.Action
import DumpReplay.Host.FileTree
import DumpReplay.Host.IoError
import DumpReplay.Host.Machine
import DumpReplay.Host.Path
import DumpReplay.Host.Process
import DumpReplay.Host.Request
import DumpReplay.Invocation
import DumpReplay.Jdk
import DumpReplay.Main
import DumpReplay.Plan
import DumpReplay.Properties
import DumpReplay.Replay.Loop
import DumpReplay.Replay.Options
import DumpReplay.Replay.Retracing
import DumpReplay.Replay.Run
import DumpReplay.Replay.Staging
import DumpReplay.Script.Arithmetic
import DumpReplay.Script.Builtin
import DumpReplay.Script.Grammar
import DumpReplay.Script.Launching
import DumpReplay.Script.Pattern
import DumpReplay.Script.Printing
import DumpReplay.Script.Programs
import DumpReplay.Script.Reading
import DumpReplay.Script.Running
import DumpReplay.Script.Shell
import DumpReplay.Shrinker.Rules
import DumpReplay.Shrinker.Toggle
import DumpReplay.Store
import DumpReplay.Text.Blank
import DumpReplay.Text.Line
import DumpReplay.Text.Lowercase
import DumpReplay.Text.Quoted
import DumpReplay.Text.Range
import DumpReplay.Text.Utf8
import DumpReplay.Toolchain
import DumpReplay.Toolchain.Placeholder
import DumpReplay.Toolchain.Settings
import DumpReplay.Url
import DumpReplay.Version
import DumpReplay.Yaml.Character
import DumpReplay.Yaml.Fault
import DumpReplay.Yaml.Node
import DumpReplay.Yaml.Token
import DumpReplay.Zip.Archive
import DumpReplay.Zip.CodePage437
import DumpReplay.Zip.Crc32
import DumpReplay.Zip.Extraction
import DumpReplay.Zip.Fault
import DumpReplay.Zip.Inflate
import DumpReplay.Proofs.Action.Agreeing
import DumpReplay.Proofs.Action.Changing
import DumpReplay.Proofs.Action.Failing
import DumpReplay.Proofs.Action.Launching
import DumpReplay.Proofs.Action.Looking
import DumpReplay.Proofs.Action.Matching
import DumpReplay.Proofs.Action.Quiet
import DumpReplay.Proofs.Action.Running
import DumpReplay.Proofs.Action.Scratching
import DumpReplay.Proofs.CommandLine.Attachment
import DumpReplay.Proofs.CommandLine.Bundles
import DumpReplay.Proofs.CommandLine.Exiting
import DumpReplay.Proofs.CommandLine.Garbling
import DumpReplay.Proofs.CommandLine.Interleaving
import DumpReplay.Proofs.CommandLine.MissingValue
import DumpReplay.Proofs.CommandLine.Position
import DumpReplay.Proofs.CommandLine.Resplitting
import DumpReplay.Proofs.CommandLine.Sorting
import DumpReplay.Proofs.CommandLine.Spelling
import DumpReplay.Proofs.CommandLine.Variables
import DumpReplay.Proofs.Distribution.Classpath
import DumpReplay.Proofs.Dump.Alike
import DumpReplay.Proofs.Dump.Batching
import DumpReplay.Proofs.Dump.Drawing
import DumpReplay.Proofs.Dump.Faults
import DumpReplay.Proofs.Dump.Features
import DumpReplay.Proofs.Dump.Mirroring
import DumpReplay.Proofs.Dump.Reopening
import DumpReplay.Proofs.Dump.Resummarizing
import DumpReplay.Proofs.Dump.Reusing
import DumpReplay.Proofs.Dump.Site
import DumpReplay.Proofs.Dump.Summarizing
import DumpReplay.Proofs.Dump.Tallying
import DumpReplay.Proofs.Dump.Unpacking
import DumpReplay.Proofs.Files.Descending
import DumpReplay.Proofs.Files.Editing
import DumpReplay.Proofs.Files.Growth
import DumpReplay.Proofs.Files.Paving
import DumpReplay.Proofs.Files.Resolving
import DumpReplay.Proofs.Files.Twins
import DumpReplay.Proofs.Invocation.Deciding
import DumpReplay.Proofs.Plan.Decoding
import DumpReplay.Proofs.Properties.Forwarding
import DumpReplay.Proofs.Properties.Joining
import DumpReplay.Proofs.Properties.Rearranging
import DumpReplay.Proofs.Properties.Recording
import DumpReplay.Proofs.Replay.Acquiring
import DumpReplay.Proofs.Replay.Adjusting
import DumpReplay.Proofs.Replay.Changing
import DumpReplay.Proofs.Replay.Classpaths
import DumpReplay.Proofs.Replay.Course
import DumpReplay.Proofs.Replay.Entering
import DumpReplay.Proofs.Replay.Failing
import DumpReplay.Proofs.Replay.Faults
import DumpReplay.Proofs.Replay.Footprint
import DumpReplay.Proofs.Replay.Looking
import DumpReplay.Proofs.Replay.Looping
import DumpReplay.Proofs.Replay.Naming
import DumpReplay.Proofs.Replay.Output
import DumpReplay.Proofs.Replay.Processes
import DumpReplay.Proofs.Replay.Quiet
import DumpReplay.Proofs.Replay.Repeating
import DumpReplay.Proofs.Replay.Reporting
import DumpReplay.Proofs.Replay.Returning
import DumpReplay.Proofs.Replay.Rounds
import DumpReplay.Proofs.Replay.Supplying
import DumpReplay.Proofs.Replay.SymbolMaps
import DumpReplay.Proofs.Script.Starting
import DumpReplay.Proofs.Shrinker.Readjusting
import DumpReplay.Proofs.Shrinker.Repeating
import DumpReplay.Proofs.Shrinker.Sifting
import DumpReplay.Proofs.Store.Addressing
import DumpReplay.Proofs.Text.Cutting
import DumpReplay.Proofs.Text.Lowercasing
import DumpReplay.Proofs.Text.Ordering
import DumpReplay.Proofs.Toolchain.Expansion
import DumpReplay.Proofs.Toolchain.Layering
import DumpReplay.Proofs.Toolchain.Replacing
import DumpReplay.Proofs.Toolchain.Scanning
import DumpReplay.Proofs.Zip.Extracting
import DumpReplay.Proofs.Zip.Matching
