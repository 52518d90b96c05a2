import ListingAtlas.Command.ListingCommand
import ListingAtlas.Compile.Watch
import ListingAtlas.SourceFile
import ListingAtlas.Text.EditorText

/-!
Generating a listing: the text in the editor is written to a temporary copy next to its source, the
compile command is rewritten and run on the copy, the copy is removed, and the listing is read.
-/

namespace ListingAtlas.Compile

open Text (EditorText)

structure Request where
  command : List String
  source : Path
  text : EditorText
  directory : String
  buildDirectory : Path
  limit : Option Limit

/-- A listing, and the path by which it calls the source. -/
structure Generated where
  text : String
  target : String
  listing : Path
deriving DecidableEq, Repr

/-- A compiler at work on a temporary copy. -/
structure Pending where
  watch : Watch
  temporary : Path
  listing : Path

/-! ### The temporary copy -/

/-- Write the copy. Text that has no bytes leaves it empty. -/
def writeCopy (workspace : Workspace) (copy : Path) (text : EditorText) :
    Workspace × Except Failure Unit :=
  let content := (text.toString?.map Text.encodeUtf8).getD []
  match workspace.writeBytes copy content with
  | .error failure => (workspace, .error failure)
  | .ok written =>
      match text.loneHalves? with
      | none => (written, .ok ())
      | some halves => (written, .error (.unencodable halves))

def Site.removeFile (site : Site) (path : Path) : Site :=
  { site with workspace := site.workspace.removeFile path }

/-! ### Start and end -/

structure Begun where
  site : Site
  logs : List LogRecord
  outcome : Except Failure Pending

def begin (site : Site) (request : Request) : Begun :=
  match request.command with
  | [] => ⟨site, [], .error .emptyCommand⟩
  | program :: arguments =>
      let source := site.workspace.absolute request.source
      let temporary := SourceFile.temporaryCopy source
      let listing := SourceFile.listing source (site.workspace.absolute request.buildDirectory)
      let arguments :=
        Command.listingArguments arguments listing.toString temporary.toString
      match writeCopy site.workspace temporary request.text with
      | (workspace, .error failure) => ⟨{ site with workspace }, [], .error failure⟩
      | (workspace, .ok _) =>
          let logs := [startRecord program arguments request.directory]
          match startWatch { site with workspace } program arguments request.directory
              request.limit with
          | (site, .error failure) => ⟨site.removeFile temporary, logs, .error failure⟩
          | (site, .ok watch) => ⟨site, logs, .ok { watch, temporary, listing }⟩

/-- What is left to do once the compiler has ended. -/
def Pending.collect (pending : Pending) (site : Site) (outcome : Except Failure String) :
    Site × Except Failure Generated :=
  let site := site.removeFile pending.temporary
  match outcome with
  | .error failure => (site, .error failure)
  | .ok _ =>
      (site, (site.workspace.readListing pending.listing).map fun text =>
        { text, target := pending.temporary.toString, listing := pending.listing })

/-- The wait for the compiler is over. -/
def Pending.conclude (pending : Pending) (site : Site) : Site × Except Failure Generated :=
  let (site, outcome) := pending.watch.conclude site
  pending.collect site outcome

/-- Generate a listing undisturbed. -/
def generate (site : Site) (request : Request) :
    Site × List LogRecord × Except Failure Generated :=
  let begun := begin site request
  match begun.outcome with
  | .error failure => (begun.site, begun.logs, .error failure)
  | .ok pending =>
      let (site, outcome) := pending.conclude begun.site
      (site, begun.logs, outcome)

end ListingAtlas.Compile
