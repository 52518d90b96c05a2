import ListingAtlas.Compile.Stages

/-!
Several generations at once. They share the files and the compilers of one site, and go on in any
order. What a step does to the files is told by deeds, each with its author; generations are known
by the order in which they begin.
-/

namespace ListingAtlas.Compile

open Text (Bytes)

/-! ### Deeds -/

/-- Who changes a file: a generation itself, its compiler, or somebody else. -/
inductive Author where
  | generation (index : Nat)
  | compiler (index : Nat)
  | stranger
deriving DecidableEq, Repr

/-- A file is written or, without content, removed. -/
structure Deed where
  author : Author
  path : Path
  content : Option Bytes
deriving DecidableEq, Repr

namespace Deed

/-- What cannot be written or removed stays as it is. -/
def perform (workspace : Workspace) (deed : Deed) : Workspace :=
  match deed.content with
  | none => workspace.removeFile deed.path
  | some content =>
      match workspace.writeBytes deed.path content with
      | .ok written => written
      | .error _ => workspace

/-- Whether a deed decides what is at a place that is no directory. -/
def reaches (workspace : Workspace) (place : Place) (deed : Deed) : Bool :=
  match workspace.locate deed.path with
  | .error _ => false
  | .ok other => other == place && (deed.content.isNone || !Workspace.holdsNull deed.path)

end Deed

/-- The temporary copy of a request. -/
def Request.copyIn (request : Request) (workspace : Workspace) : Path :=
  SourceFile.temporaryCopy (workspace.absolute request.source)

/-- The listing of a request. -/
def Request.listingIn (request : Request) (workspace : Workspace) : Path :=
  SourceFile.listing (workspace.absolute request.source)
    (workspace.absolute request.buildDirectory)

/-- The arguments with which the compiler of a request is started. -/
def Request.argumentsIn (request : Request) (workspace : Workspace) : List String :=
  Command.listingArguments request.command.tail (request.listingIn workspace).toString
    (request.copyIn workspace).toString

/-- What comes of the start of a compiler. -/
def Request.launchOn (request : Request) (site : Site) : Except Failure Script :=
  site.launch (request.command.headD "") (request.argumentsIn site.workspace) request.directory

/-- A generation removes its copy. -/
def removal (copy : Path) (index : Nat) : Deed :=
  { author := .generation index, path := copy, content := none }

/-- The copy is written, and removed if the compiler does not start. -/
def openingDeeds (site : Site) (request : Request) (index : Nat) : List Deed :=
  match request.command with
  | [] => []
  | _ :: _ =>
      let copy := request.copyIn site.workspace
      { author := .generation index
        path := copy
        content := some ((request.text.toString?.map Text.encodeUtf8).getD []) } ::
        match (writeCopy site.workspace copy request.text).2, request.launchOn site with
        | .ok _, .error _ => [removal copy index]
        | _, _ => []

/-- The listing that a process leaves when it ends. -/
def Process.deeds (process : Process) (index : Nat) : List Deed :=
  match process.script.listing, listingPath? process.arguments with
  | some listing, some path =>
      [{ author := .compiler index
         path := Path.parse path
         content := some (writtenListing process.arguments listing) }]
  | _, _ => []

def Generation.deeds (generation : Generation) (index : Nat) : Happening → List Deed
  | .elapsed =>
      match generation.stage with
      | .starting process =>
          match process.watch generation.limit with
          | .error _ => [removal generation.temporary index]
          | .ok _ => []
      | .running watch =>
          match watch.verdict with
          | .expires _ => []
          | .ends => watch.process.deeds index ++ [removal generation.temporary index]
      | .reaping _ _ => [removal generation.temporary index]
      | .ended _ => []
  | .cancelled =>
      match generation.stage with
      | .reaping _ _ => [removal generation.temporary index]
      | _ => []
  | .writes path content =>
      match generation.stage with
      | .ended _ => []
      | _ => [{ author := .compiler index, path, content := some content }]

/-! ### Steps -/

structure Workshop where
  site : Site
  /-- From the first to the last that has begun; each knows the site of its own last step. -/
  generations : List Generation

/-- Strangers may be compilers that were left to themselves. -/
inductive Workshop.Step where
  | begins (request : Request)
  | happens (index : Nat) (happening : Happening)
  | strays (path : Path) (content : Option Bytes)

namespace Workshop

/-- A generation, as it finds the site now. -/
def generation? (workshop : Workshop) (index : Nat) : Option Generation :=
  workshop.generations[index]?.map fun generation => { generation with site := workshop.site }

def stage? (workshop : Workshop) (index : Nat) : Option Stage :=
  (workshop.generation? index).map Generation.stage

def stray (path : Path) (content : Option Bytes) : Deed :=
  { author := .stranger, path, content }

def step (workshop : Workshop) : Step → Workshop
  | .begins request =>
      let generation := Generation.begin workshop.site request
      { site := generation.site, generations := workshop.generations ++ [generation] }
  | .happens index happening =>
      match workshop.generation? index with
      | none => workshop
      | some generation =>
          let generation := generation.occur happening
          { site := generation.site, generations := workshop.generations.set index generation }
  | .strays path content =>
      let workspace := (stray path content).perform workshop.site.workspace
      { workshop with site := { workshop.site with workspace } }

def after (workshop : Workshop) (steps : List Step) : Workshop :=
  steps.foldl step workshop

/-- What a step does to the files. -/
def stepDeeds (workshop : Workshop) : Step → List Deed
  | .begins request =>
      openingDeeds workshop.site request workshop.generations.length
  | .happens index happening =>
      match workshop.generation? index with
      | none => []
      | some generation => generation.deeds index happening
  | .strays path content => [stray path content]

def deeds (workshop : Workshop) : List Step → List Deed
  | [] => []
  | step :: steps => workshop.stepDeeds step ++ (workshop.step step).deeds steps

/-- The last deed of some steps that decides what is at a place. -/
def lastDeed? (workshop : Workshop) (steps : List Step) (place : Place) : Option Deed :=
  ((workshop.deeds steps).filter (Deed.reaches workshop.site.workspace place)).getLast?

/-- What some steps leave at a place: what the last such deed has left, or what was there before. -/
def left (workshop : Workshop) (steps : List Step) (place : Place) : Option Node :=
  match workshop.lastDeed? steps place with
  | some deed => deed.content.map Node.file
  | none => workshop.site.workspace.node? place

end Workshop

end ListingAtlas.Compile
