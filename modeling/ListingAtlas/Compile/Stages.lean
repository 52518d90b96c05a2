import ListingAtlas.Compile.Generation

/-!
A generation wait by wait. It waits for its compiler to start and for it to end; once the compiler
is killed, it waits for that end as well. Whoever has asked for the listing may give up at any of
these waits, and during them the compiler may write files.
-/

namespace ListingAtlas.Compile

open Text (Bytes)

inductive Ending where
  | returned (generated : Generated)
  | failed (failure : Failure)
  | cancelled
deriving DecidableEq, Repr

def Ending.ofOutcome : Except Failure Generated → Ending
  | .ok generated => .returned generated
  | .error failure => .failed failure

/-- What a generation waits for, if it is not over. -/
inductive Stage where
  /-- For word that the process has started. -/
  | starting (process : Process)
  | running (watch : Watch)
  /-- For the end of the process that it has killed, to fail then or to give up. -/
  | reaping (process : Process) (failure : Option Failure)
  | ended (ending : Ending)
deriving DecidableEq, Repr

structure Generation where
  site : Site
  temporary : Path
  listing : Path
  limit : Option Limit
  stage : Stage
  /-- The paths to which the compiler has written, or would have. -/
  written : List Path

inductive Happening where
  /-- The wait is over. -/
  | elapsed
  /-- The wait is given up. -/
  | cancelled
  /-- The compiler writes a file. -/
  | writes (path : Path) (content : Bytes)

/-- Where a process leaves its listing when it ends. -/
def Process.listingFile? (process : Process) : Option Path :=
  match process.script.listing, listingPath? process.arguments with
  | some _, some path => some (Path.parse path)
  | _, _ => none

namespace Generation

/-- Every way out removes the copy. -/
def leave (generation : Generation) (ending : Ending) : Generation :=
  { generation with
    site := generation.site.removeFile generation.temporary
    stage := .ended ending }

/-- The way out after a successful run, on which the listing is read. -/
def deliver (generation : Generation) : Generation :=
  let workspace := (generation.site.removeFile generation.temporary).workspace
  generation.leave <| .ofOutcome <| (workspace.readListing generation.listing).map fun text =>
    { text, target := generation.temporary.toString, listing := generation.listing }

def begin (site : Site) (request : Request) : Generation :=
  let source := site.workspace.absolute request.source
  let temporary := SourceFile.temporaryCopy source
  let listing := SourceFile.listing source (site.workspace.absolute request.buildDirectory)
  let waiting (site : Site) (stage : Stage) : Generation :=
    { site, temporary, listing, limit := request.limit, stage, written := [] }
  match request.command with
  | [] => waiting site (.ended (.failed .emptyCommand))
  | program :: arguments =>
      match writeCopy site.workspace temporary request.text with
      | (workspace, .error failure) => waiting { site with workspace } (.ended (.failed failure))
      | (workspace, .ok _) =>
          let arguments := Command.listingArguments arguments listing.toString temporary.toString
          match Site.start { site with workspace } program arguments request.directory with
          | (site, .error failure) =>
              waiting (site.removeFile temporary) (.ended (.failed failure))
          | (site, .ok process) => waiting site (.starting process)

/-- A process ends and leaves its listing. -/
def finish (generation : Generation) (process : Process) : Generation × Except Failure String :=
  match generation.site.finish process with
  | .error failure => (generation, .error failure)
  | .ok site =>
      let written := process.listingFile?.toList ++ generation.written
      ({ generation with site, written }, process.script.outcome)

theorem finish_stage (generation : Generation) (process : Process) :
    (generation.finish process).1.stage = generation.stage := by
  unfold finish
  cases generation.site.finish process <;> rfl

/-- What follows when it is known what has come of the process. -/
def hear (generation : Generation) : Except Failure String → Generation
  | .error failure => generation.leave (.failed failure)
  | .ok _ => generation.deliver

theorem hear_stage (generation : Generation) (outcome : Except Failure String) :
    ∃ ending, (generation.hear outcome).stage = .ended ending := by
  cases outcome <;> exact ⟨_, rfl⟩

def conclude (generation : Generation) (watch : Watch) : Generation :=
  (generation.finish watch.process).1.hear (generation.finish watch.process).2

/-- The process is killed, and what comes then has to wait for its end. -/
def kill (generation : Generation) (process : Process) (failure : Option Failure) : Generation :=
  { generation with site := generation.site.kill process, stage := .reaping process failure }

def elapse (generation : Generation) : Generation :=
  match generation.stage with
  | .starting process =>
      match process.watch generation.limit with
      | .error failure => generation.leave (.failed failure)
      | .ok watch => { generation with stage := .running watch }
  | .running watch =>
      match watch.verdict with
      | .expires failure => generation.kill watch.process (some failure)
      | .ends => generation.conclude watch
  | .reaping _ (some failure) => generation.leave (.failed failure)
  | .reaping _ none => generation.leave .cancelled
  | .ended _ => generation

def cancel (generation : Generation) : Generation :=
  match generation.stage with
  | .starting process => generation.kill process none
  | .running watch => generation.kill watch.process none
  | .reaping _ _ => generation.leave .cancelled
  | .ended _ => generation

/-- The compiler writes where it can, until the generation is over. -/
def write (generation : Generation) (path : Path) (content : Bytes) : Generation :=
  match generation.stage, generation.site.workspace.writeBytes path content with
  | .ended _, _ => generation
  | _, .error _ => generation
  | _, .ok workspace =>
      { generation with
        site := { generation.site with workspace }
        written := path :: generation.written }

def occur (generation : Generation) : Happening → Generation
  | .elapsed => generation.elapse
  | .cancelled => generation.cancel
  | .writes path content => generation.write path content

def after (generation : Generation) (happenings : List Happening) : Generation :=
  happenings.foldl occur generation

end Generation

end ListingAtlas.Compile
