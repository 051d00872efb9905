import Signage.Main
import Signage.Service.Router
import Signage.Store.Edit
import Signage.Proofs.Calendar.HeaderDates
import Signage.Proofs.Files.Places
import Signage.Proofs.Files.Changes
import Signage.Proofs.Files.Conduct
import Signage.Proofs.Index.Publication
import Signage.Proofs.Poll.Serving
import Signage.Proofs.Store.Administration
import Signage.Proofs.Service.Sessions
import Signage.Proofs.Content.ExpansionTree
import Signage.Proofs.Content.Resolution
import Signage.Proofs.Poll.Interleaving
import Signage.Proofs.Files.Children
import Signage.Proofs.Index.Naming
import Signage.Proofs.Index.Shelf
import Signage.Proofs.Index.Catalogue
import Signage.Proofs.Text.Tokens
import Signage.Proofs.Section.Entities
import Signage.Proofs.Section.FreeTexts
import Signage.Proofs.Content.RegionNames
import Signage.Proofs.Section.RegionReferences
import Signage.Proofs.Poll.Endings
import Signage.Proofs.Files.Ancestors
import Signage.Proofs.Index.Repetition
import Signage.Proofs.Store.Reporting
import Signage.Proofs.Poll.Repetition
import Signage.Proofs.Section.Gaps
import Signage.Proofs.Section.WeeklySchedule
import Signage.Proofs.Index.Atomicity
import Signage.Proofs.Template.Fitting
import Signage.Proofs.Json.RoundTrip
import Signage.Proofs.Json.Documents
import Signage.Proofs.Store.Registry
import Signage.Proofs.Store.Reading
import Signage.Proofs.Store.Refinement
import Signage.Proofs.Content.Itinerary
import Signage.Proofs.Content.Faults
import Signage.Proofs.Content.Budget
import Signage.Proofs.Content.Calls
import Signage.Proofs.Content.Dependence
import Signage.Proofs.Content.Idempotence
import Signage.Proofs.Number.Nearness
import Signage.Proofs.Text.Decimals
import Signage.Proofs.Section.Percentages
import Signage.Proofs.Text.Runs
import Signage.Proofs.Calendar.MailDates
import Signage.Proofs.Poll.Conditional
import Signage.Proofs.Text.Leftmost
import Signage.Proofs.Template.Marks
import Signage.Proofs.Template.Expansion
import Signage.Proofs.Text.PercentCodes
import Signage.Proofs.Identity.UserAgents
import Signage.Proofs.Identity.Devices
import Signage.Proofs.Section.PrefetchWindows
import Signage.Proofs.Template.Builds
import Signage.Proofs.Store.Recall
import Signage.Proofs.Content.Renaming
import Signage.Proofs.Store.Decoding
import Signage.Proofs.Cli.CommandLines
import Signage.Proofs.Cli.ServedAddress
import Signage.Proofs.Json.Spellings
import Signage.Proofs.Content.Spans
import Signage.Proofs.Content.Restoration
