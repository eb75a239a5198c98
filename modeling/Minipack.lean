import Minipack.Disk.Listing
import Minipack.Main
import Minipack.StaticServer
import Minipack.Proofs.Keyed
import Minipack.Proofs.Path.Order
import Minipack.Proofs.Registry
import Minipack.Proofs.Registry.History
import Minipack.Proofs.Chunk
import Minipack.Proofs.Compile.File
import Minipack.Proofs.Compile.Trace
import Minipack.Proofs.Compile.Merge
import Minipack.Proofs.Compile.Reach
import Minipack.Proofs.Compile.Steps
import Minipack.Proofs.Path.Components
import Minipack.Proofs.Path.Specifier
import Minipack.Proofs.Path.Extension
import Minipack.Proofs.Bundle.Keys
import Minipack.Proofs.Bundle.Table
import Minipack.Proofs.Disk.Walking
import Minipack.Proofs.Disk.Growth
import Minipack.Proofs.Flush
import Minipack.Proofs.Build.Stages
import Minipack.Proofs.Build.Batch
import Minipack.Proofs.Build.Standing
import Minipack.Proofs.Build.Steps
import Minipack.Proofs.Disk.Layout
import Minipack.Proofs.Disk.Spelling
import Minipack.Proofs.Json.Reading
import Minipack.Proofs.Resolve.Layout
import Minipack.Proofs.Path.Parent
import Minipack.Proofs.Compile.Current
import Minipack.Proofs.Build.Entries
import Minipack.Proofs.Build.Tasks
import Minipack.Proofs.Build.Settled
import Minipack.Proofs.Path.Moves
import Minipack.Proofs.Path.Straight
import Minipack.Proofs.Resolve.Referring
import Minipack.Proofs.Resolve.Routes
import Minipack.Proofs.Disk.Linkless
import Minipack.Proofs.Disk.Named
import Minipack.Proofs.Compile.Once
import Minipack.Proofs.Build.Agreement
import Minipack.Proofs.Build.Origins
import Minipack.Proofs.Build.Sharing
import Minipack.Proofs.Compile.Alone
import Minipack.Proofs.Build.Removals
import Minipack.Proofs.Build.Roles
import Minipack.Proofs.Build.Stubs
import Minipack.Proofs.Build.References
import Minipack.Proofs.Build.Restoring
import Minipack.Proofs.Bundle.Mapping
import Minipack.Proofs.Disk.Footprint
import Minipack.Proofs.Disk.Names
import Minipack.Proofs.Disk.Leading
import Minipack.Proofs.Compile.Transfer
import Minipack.Proofs.Build.Whole
import Minipack.Proofs.Resolve.Probes
import Minipack.Proofs.Build.Recompiling
import Minipack.Proofs.Build.Bundling
import Minipack.Proofs.Build.Rerunning
import Minipack.Proofs.StaticServer
import Minipack.Proofs.Resolve.Published
import Minipack.Proofs.Build.Serving
import Minipack.Proofs.Compile.Failing
import Minipack.Proofs.Config.Lasting
import Minipack.Proofs.Resolve.PluginRoot
import Minipack.Proofs.Path.Tidy
import Minipack.Proofs.Resolve.Modules
import Minipack.Proofs.Build.Pages
import Minipack.Proofs.Confinement
import Minipack.Proofs.Delivery
import Minipack.Proofs.Build.Cleaning
import Minipack.Proofs.Source.Stripping
import Minipack.Proofs.Source.Scanning
import Minipack.Proofs.Source.Replacing
import Minipack.Proofs.Source.Splicing
import Minipack.Proofs.Source.Recognisers
import Minipack.Proofs.Resolve.Alignment
import Minipack.Proofs.Source.Commenting
import Minipack.Proofs.Source.Sheets
import Minipack.Proofs.Resolve.Restyling
import Minipack.Proofs.Path.Ending
import Minipack.Proofs.Rule
import Minipack.Proofs.Resolve.Including
import Minipack.Proofs.Source.Templates
import Minipack.Proofs.Source.Opening
import Minipack.Proofs.Source.Tagging
import Minipack.Proofs.Resolve.Rewriting
import Minipack.Proofs.Path.Reaching
import Minipack.Proofs.Glob
import Minipack.Proofs.Text
import Minipack.Proofs.Resolve.Aliases
import Minipack.Proofs.Loader.Inlining
import Minipack.Proofs.Source.Front
import Minipack.Proofs.Compile.Marking
