import AppBundle.Main
import AppBundle.Proofs.Entry.LineTable
import AppBundle.Proofs.Modules
import AppBundle.Proofs.Locator
import AppBundle.Proofs.Text.Bytes
import AppBundle.Proofs.Json.RoundTrip
import AppBundle.Proofs.Template.Splice
import AppBundle.Proofs.Cache.Files
import AppBundle.Proofs.Cache.Transparency
import AppBundle.Proofs.Cache.Complete
import AppBundle.Proofs.Disk.Folders
import AppBundle.Proofs.Cache.Isolation
import AppBundle.Proofs.Cache.RoundTrip
import AppBundle.Proofs.Cache.Options
import AppBundle.Proofs.SourceMap.RoundTrip
import AppBundle.Proofs.SourceMap.Words
import AppBundle.Proofs.Template.Calls
import AppBundle.Proofs.Template.Check
import AppBundle.Proofs.Stack.Frame
import AppBundle.Proofs.Entry.Comments
import AppBundle.Proofs.Import.Resolve
import AppBundle.Proofs.Entry.Imports
import AppBundle.Proofs.Entry.TopLevel
import AppBundle.Proofs.Run.Session
import AppBundle.Proofs.Host.Listening
import AppBundle.Proofs.Stack.RoundTrip
import AppBundle.Proofs.Cache.Spared
import AppBundle.Proofs.Disk.Way
import AppBundle.Proofs.Host.Commands
import AppBundle.Proofs.Host.Delivery
import AppBundle.Proofs.Run.Holdings
import AppBundle.Proofs.Run.Lifetime
import AppBundle.Proofs.Run.Usage
import AppBundle.Proofs.Entry.ModuleLines
import AppBundle.Proofs.SourceMap.Lookup
import AppBundle.Proofs.Locator.Calls
import AppBundle.Proofs.Locator.Foreign
import AppBundle.Proofs.Locator.Handlers
import AppBundle.Proofs.LineTable.Nearest
import AppBundle.Proofs.Template.Order
import AppBundle.Proofs.Import.Ranges
import AppBundle.Proofs.Import.Program
import AppBundle.Proofs.Entry.Literals
import AppBundle.Proofs.Bundle.Failure
import AppBundle.Proofs.Cache.Maintenance
import AppBundle.Proofs.Cache.Atomic
import AppBundle.Proofs.SourceMap.Faults
