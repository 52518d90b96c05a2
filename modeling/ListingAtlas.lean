import ListingAtlas.Main
import ListingAtlas.Session.Compiling
import ListingAtlas.Session.Operation
import ListingAtlas.Session.Planned
import ListingAtlas.Proofs.Correlation.Ranges
import ListingAtlas.Proofs.Listing.Boundary
import ListingAtlas.Proofs.Listing.Echo
import ListingAtlas.Proofs.Listing.File
import ListingAtlas.Proofs.Listing.Reading
import ListingAtlas.Proofs.Session.Debounce
import ListingAtlas.Proofs.Session.InFlight
import ListingAtlas.Proofs.Session.Newest
import ListingAtlas.Proofs.Session.Overlap
import ListingAtlas.Proofs.Session.Script
import ListingAtlas.Proofs.Session.Stillness
import ListingAtlas.Proofs.Listing.Bound
import ListingAtlas.Proofs.Listing.Noise
import ListingAtlas.Compile.Stages
import ListingAtlas.Proofs.Compile.Stages
import ListingAtlas.Proofs.Path
import ListingAtlas.Proofs.Workspace
import ListingAtlas.Proofs.Compile.Copy
import ListingAtlas.Compile.Workshop
import ListingAtlas.Proofs.Compile.Workshop
import ListingAtlas.Proofs.Session.Seats
import ListingAtlas.Proofs.Session.Overtaken
import ListingAtlas.Proofs.Session.Recompiling
import ListingAtlas.Proofs.Session.Fate
import ListingAtlas.Proofs.Session.Share
import ListingAtlas.Proofs.Session.Independence
import ListingAtlas.Proofs.Session.Closing
import ListingAtlas.Proofs.OutputName
import ListingAtlas.Proofs.OutputName.Search
import ListingAtlas.Proofs.Session.Failing
import ListingAtlas.Proofs.CommandLine.Saving
import ListingAtlas.Proofs.CommandLine.Preparing
import ListingAtlas.Proofs.CommandLine.GivenListing
import ListingAtlas.Proofs.Compile.Breaking
import ListingAtlas.Proofs.CommandLine.Escaping
import ListingAtlas.Proofs.View.Page
import ListingAtlas.Proofs.View.Annotated
import ListingAtlas.Proofs.Service.Answering
import ListingAtlas.Proofs.CommandLine.Correlating
import ListingAtlas.Proofs.Command.Rewriting
import ListingAtlas.Proofs.View.Separators
import ListingAtlas.Proofs.Json.RoundTrip
import ListingAtlas.Proofs.View.Documents
import ListingAtlas.Proofs.Correlation.Digits
import ListingAtlas.Proofs.Service.Agreeing
import ListingAtlas.Proofs.Command.Detached
import ListingAtlas.Proofs.Command.Quoting
import ListingAtlas.Proofs.Compile.Unwritten
import ListingAtlas.Compile.Call
import ListingAtlas.Proofs.Number.Binary64
import ListingAtlas.Proofs.Compile.Event
import ListingAtlas.Proofs.Compile.Call
import ListingAtlas.Proofs.Listing.Growth
import ListingAtlas.Proofs.Listing.Endings
import ListingAtlas.Proofs.Correlation.SourceLines
import ListingAtlas.Proofs.Correlation.Entries
import ListingAtlas.Proofs.OutputName.Saves
import ListingAtlas.Proofs.Listing.Directives
import ListingAtlas.Proofs.Correlation.Colors
import ListingAtlas.Proofs.Command.Programs
import ListingAtlas.Proofs.Palette
import ListingAtlas.Proofs.View.StyleClasses
