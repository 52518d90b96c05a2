import ListingAtlas.Proofs.CommandLine.Arguments
import ListingAtlas.Proofs.CommandLine.Escaping
import ListingAtlas.Proofs.CommandLine.GivenListing
import ListingAtlas.Proofs.Compile.Correlator

/-!
Runs with a command, beside the correlation of a request for the same. Both start the same compiler
on the same copy, and correlate the same or fail alike. Only then does a run do more than that: it
saves the views, and there a name that is too long can still end it.
-/

namespace ListingAtlas.CommandLine

open Compile (Limit Request Site)
open Number (Binary64)

/-! ### Arguments -/

/-- A command that is no switch stands behind its switch as it is. -/
theorem parse_commanded {edition : Edition} {source line formats : String}
    (plainSource : source.toList.head? ≠ some '-') (plainLine : line.toList.head? ≠ some '-')
    (plainFormats : formats.toList.head? ≠ some '-') :
    Invocation.parse edition [source, "--command", line, "--formats", formats] =
      .ok { source, options := { command := some (.text line), formats := some formats } } := by
  have switches : classify edition "--command" = .ok (.switch .command .nothing) ∧
      classify edition "--formats" = .ok (.switch .formats .nothing) := by
    cases edition <;> decide +kernel
  unfold Invocation.parse
  rw [classifyAll_plain plainSource, classifyAll_cons (by decide) switches.1,
    classifyAll_plain plainLine, classifyAll_cons (by decide) switches.2,
    classifyAll_plain plainFormats]
  rfl

/-! ### Failures -/

/-- A run ends by a failure: one that compiling or correlating accounts for is the error it tells, and
any other is let pass. -/
def Outcome.EndsBy (outcome : Outcome) (failure : Failure) : Prop :=
  match failure.classOf with
  | .unexpected => outcome.ending = .raised failure
  | _ => outcome.ending = .exited 1 ∧
      ∃ lines, outcome.errors = printed (lines ++ ["Error: " ++ failure.message])

theorem errors_of_told {step : Step Unit} {lines : List String} {text : String}
    (fails : step.result = .error (.told lines text)) :
    step.outcome.errors = printed (step.lines ++ lines ++ ["Error: " ++ text]) := by
  simp only [Step.outcome, fails, Fault.lines, List.append_assoc]

theorem endsBy_of_error {step : Step Unit} {failure : Failure}
    (fails : step.result = .error (Fault.ofFailure failure)) : step.outcome.EndsBy failure := by
  unfold Fault.ofFailure at fails
  unfold Outcome.EndsBy
  split
  · rename_i unexpected
    rw [unexpected] at fails
    exact ending_of_untold fails
  · rename_i accounted
    split at fails
    · rename_i unexpected
      exact absurd unexpected accounted
    · exact ⟨(tellsError_of_told fails).1, _, errors_of_told fails⟩

/-! ### The listing and its correlation -/

/-- Neither a listing nor a command counts before the listing is looked for. -/
theorem prepare_of_origin (environment : Environment) (workspace : Workspace)
    (invocation : Invocation) (listing : Option String) (command : Option Value) :
    prepare environment workspace
        { invocation with options := { invocation.options with listing, command } } =
      prepare environment workspace invocation := rfl

section

variable {environment : Environment} {site : Site} {invocation : Invocation}
  {preparation : Preparation} {options : Options} {limit : Option Limit} {line : String}
  {failure : Failure}

theorem findMaterial_of_refused (noListing : options.listing = none)
    (given : options.command = some (.text line))
    (refused : Compile.checkFamily (Command.splitCommand line) = .error failure) :
    let found := findMaterial site preparation options limit
    found.site = site ∧ found.result = .error (Fault.ofFailure failure) := by
  unfold findMaterial
  rw [noListing, given]
  simp only [given?, Option.filter_none, refused]
  exact ⟨rfl, rfl⟩

theorem findMaterial_of_accepted (noListing : options.listing = none)
    (given : options.command = some (.text line))
    (accepted : Compile.checkFamily (Command.splitCommand line) = .ok ()) :
    let found := findMaterial site preparation options limit
    let generated := Compile.generate site
      (requestFor site preparation options limit (Command.splitCommand line))
    found.site = generated.1 ∧ found.result =
      (generated.2.2.mapError Fault.ofFailure).map fun generated =>
        { listing := generated.text, target := generated.target } := by
  unfold findMaterial
  rw [noListing, given]
  simp only [given?, Option.filter_none, accepted]
  exact compileMaterial_eq site preparation options limit (Command.splitCommand line)

/-- There is but one dialect. -/
theorem Prepared.dialect_eq (prepared : Prepared environment site.workspace invocation preparation) :
    preparation.dialect = Listing.Msvc.dialect := by
  have known := prepared.dialect
  unfold findDialect at known
  split at known
  · have found := tell_eq_ok_iff.mp known
    unfold Listing.findDialect at found
    split at found
    · rename_i dialect listed
      rw [← Except.ok.inj found]
      unfold Listing.dialects at listed
      rw [List.lookup_cons] at listed
      split at listed
      · exact (Option.some.inj listed).symm
      · cases listed
    · cases found
  · cases known

theorem Prepared.correlated_eq (prepared : Prepared environment site.workspace invocation preparation)
    (untargeted : given? options.target = none) (limit : Option Limit) (command : List String)
    (generated : Compile.Generated) :
    preparation.correlated options { listing := generated.text, target := generated.target } =
      Compile.correlateGenerated environment (requestFor site preparation options limit command)
        generated := by
  obtain ⟨palette, loaded, presentation⟩ := prepared.presentation
  have text : ((requestFor site preparation options limit command).text.toString?.getD "") =
      preparation.text := by
    change ((Text.EditorText.ofString preparation.text).toString?.getD "") = _
    rw [Text.EditorText.toString?_ofString]
    rfl
  unfold Preparation.correlated Compile.correlateGenerated
  rw [untargeted, loaded, text, presentation, prepared.dialect_eq]
  rfl

/-- A run with a command fails as the request does, where the request leaves the files; or it saves
the views of what is correlated for the request, and the copy is gone. -/
theorem runPrepared_of_command
    (prepared : Prepared environment site.workspace invocation preparation)
    (noListing : options.listing = none) (given : options.command = some (.text line))
    (untargeted : given? options.target = none) (limit : Option Limit) {request : Request}
    (requests : requestFor site preparation options limit (Command.splitCommand line) = request)
    {asked : Site × List LogRecord × Except Failure Correlation}
    (asks : Compile.correlateRequest environment site request = asked) :
    let step := runPrepared site preparation options limit
    (∃ failure, asked.2.2 = .error failure ∧ step.site = asked.1 ∧
        step.result = .error (Fault.ofFailure failure)) ∨
      ∃ generated correlation, asked.2.2 = .ok correlation ∧
        Compile.Leaves request site.workspace asked.1.workspace generated ∧
        Workspace.SameDirectories site.workspace asked.1.workspace ∧
        let saved := saveAll preparation correlation asked.1 preparation.views
        step.site = saved.site ∧ step.result = saved.result := by
  intro step
  let found := findMaterial site preparation options limit
  have command : request.command = Command.splitCommand line := by
    rw [← requests]
    rfl
  cases family : Compile.checkFamily (Command.splitCommand line) with
  | error failure =>
      obtain ⟨unchanged, fails⟩ : found.site = site ∧ found.result = .error (.ofFailure failure) :=
        findMaterial_of_refused noListing given family
      obtain ⟨same, failed⟩ := runPrepared_of_unfound fails
      rw [← command] at family
      rw [← asks, Compile.correlateRequest_of_refused family]
      exact Or.inl ⟨failure, rfl, same.trans unchanged, failed⟩
  | ok _ =>
      obtain ⟨reached, outcome⟩ : found.site = _ ∧ found.result = _ :=
        findMaterial_of_accepted noListing given family
      rw [← command] at family
      rw [requests] at reached outcome
      rw [← asks, Compile.correlateRequest_of_accepted family]
      cases succeeds : (Compile.generate site request).2.2 with
      | error failure =>
          have fails : found.result = .error (.ofFailure failure) := by
            rw [outcome, succeeds]
            rfl
          obtain ⟨same, failed⟩ := runPrepared_of_unfound fails
          exact Or.inl ⟨failure, rfl, same.trans reached, failed⟩
      | ok listing =>
          have finds : found.result = .ok { listing := listing.text, target := listing.target } := by
            rw [outcome, succeeds]
            rfl
          have both := prepared.correlated_eq untargeted limit (Command.splitCommand line) listing
          rw [requests] at both
          cases correlated : Compile.correlateGenerated environment request listing with
          | error failure =>
              obtain ⟨same, failed⟩ := runPrepared_of_uncorrelated finds (both.trans correlated)
              exact Or.inl ⟨failure, correlated, same.trans reached, failed⟩
          | ok correlation =>
              obtain ⟨same, ended⟩ := runPrepared_of_correlated finds (both.trans correlated)
              rw [reached] at same ended
              exact Or.inr ⟨listing, correlation, correlated, Compile.leaves_of_generate succeeds,
                Compile.sameDirectories_generate site request, same, ended⟩

end

/-! ### Runs and requests -/

theorem labelled_suffix {view : View} (known : view ∈ View.all) :
    OutputName.Labelled view.suffix := by
  simp only [View.all, List.mem_cons, List.not_mem_nil, or_false] at known
  rcases known with rfl | rfl | rfl | rfl <;>
    exact ⟨by decide, by decide, by decide, by decide⟩

/-- A path that is made absolute keeps its name, if it has one. -/
theorem name_absolute (workspace : Workspace) (path : Path) :
    (workspace.absolute path).name = path.name ∨ path.name = "" := by
  unfold Workspace.absolute Path.join Path.name
  split
  · exact Or.inl rfl
  · cases named : path.parts.getLast? with
    | none => exact Or.inr rfl
    | some name =>
        rw [List.getLast?_append, named]
        exact Or.inl rfl

/-- No view of a source is called like the copy of it. -/
theorem copy_ne_view {view : View} (known : view ∈ View.all) (workspace : Workspace)
    (source : Path) (tries : Nat) :
    SourceFile.temporaryMark ++ (workspace.absolute source).name ≠
      (OutputName.mk source.stem view.suffix).candidate tries := by
  have labelled := labelled_suffix known
  rcases name_absolute workspace source with same | nameless
  · rw [same]
    exact OutputName.copy_ne_candidate labelled source.name tries
  · have stem : source.stem = "" := by
      rw [Path.stem, nameless]
      rfl
    rw [stem]
    exact OutputName.copy_ne_candidate_of_no_stem labelled _ tries

/-- A run and a request have done the same work: they have started the same compilers, whatever the
request has left the run has left as well, and the copy and the listing are the same. -/
structure SameWork (request : Request) (before : Workspace) (ran asked : Site) : Prop where
  runs : ran.runs = asked.runs
  kept : ∀ path node, asked.workspace.lookUp path = .ok node → ran.workspace.lookUp path = .ok node
  copy : ran.workspace.lookUp (request.copyIn before) =
    asked.workspace.lookUp (request.copyIn before)
  listing : ran.workspace.lookUp (request.listingIn before) =
    asked.workspace.lookUp (request.listingIn before)

theorem SameWork.refl (request : Request) (before : Workspace) (site : Site) :
    SameWork request before site site :=
  ⟨rfl, fun _path _node found => found, rfl, rfl⟩

/-- How a run ends beside the outcome of its request. It fails with it; or it saves the views of the
same correlation, all of them or those before one whose name is too long to be asked for. -/
inductive Agrees (preparation : Preparation) (asked : Site) (outcome : Outcome) :
    Except Failure Correlation → Prop
  | failed {failure : Failure} (same : outcome.site = asked) (ends : outcome.EndsBy failure) :
      Agrees preparation asked outcome (.error failure)
  | saved {correlation : Correlation} {directory : Place}
      (into : LeadsInto asked.workspace preparation.outputDirectory directory)
      (saved : Saved directory preparation.source.stem correlation preparation.views asked.workspace
        outcome.site.workspace)
      (ends : outcome.ending = .exited 0) :
      Agrees preparation asked outcome (.ok correlation)
  | stopped {correlation : Correlation} {directory : Place} {earlier later : List View}
      {view : View} {failure : Failure}
      (into : LeadsInto asked.workspace preparation.outputDirectory directory)
      (parts : preparation.views = earlier ++ view :: later)
      (saved : Saved directory preparation.source.stem correlation earlier asked.workspace
        outcome.site.workspace)
      (stops : Stops preparation outcome.site.workspace directory view failure)
      (ends : outcome.ending = .raised failure) :
      Agrees preparation asked outcome (.ok correlation)

theorem Outcome.EndsBy.not_exited {outcome : Outcome} {failure : Failure}
    (ends : outcome.EndsBy failure) : outcome.ending ≠ .exited 0 := by
  unfold Outcome.EndsBy at ends
  split at ends
  · rw [ends]
    exact nofun
  · rw [ends.1]
    decide

/-- A run that ends well has a correlation to show for it. -/
theorem Agrees.exists_of_exited {preparation : Preparation} {asked : Site} {outcome : Outcome}
    {correlated : Except Failure Correlation}
    (agrees : Agrees preparation asked outcome correlated) (exited : outcome.ending = .exited 0) :
    ∃ correlation, correlated = .ok correlation := by
  cases agrees with
  | failed _same ends => exact absurd exited ends.not_exited
  | saved _into _saved _ends => exact ⟨_, rfl⟩
  | stopped _into _parts _saved _stops _ends => exact ⟨_, rfl⟩

section

variable {environment : Environment} {invocation : Invocation} {preparation : Preparation}
  {request : Request} {before written : Workspace} {asked : Site} {generated : Compile.Generated}
  {correlation : Correlation} {views : List View}

/-- Behind what a request leaves, views are saved elsewhere. -/
theorem sameWork_of_saved {directory : Place}
    (leaves : Compile.Leaves request before asked.workspace generated)
    (known : ∀ view ∈ views, view ∈ View.all)
    (saved : Saved directory request.source.stem correlation views asked.workspace written) :
    SameWork request before { asked with workspace := written } asked := by
  refine ⟨rfl, fun _path _node found => saved.lookUp found, ?_, ?_⟩
  · obtain ⟨place, leads, nothing⟩ := leaves.gone
    have called := Workspace.getLast?_locate (SourceFile.getLast?_temporaryCopy _)
      (SourceFile.copy_ne_upward _) leads
    rw [Workspace.lookUp_eq_missing leads nothing]
    refine saved.lookUp_missing leads nothing fun view member tries => ?_
    rw [called, ne_eq, Option.some.injEq]
    exact copy_ne_view (known view member) before request.source tries
  · obtain ⟨content, found⟩ := Workspace.exists_file_of_readListing leaves.read
    rw [found]
    exact saved.lookUp found

/-- A run that ends with its views agrees with the request that has correlated them. -/
theorem agrees_of_saveAll (prepared : Prepared environment before invocation preparation)
    (source : request.source = preparation.source)
    (leaves : Compile.Leaves request before asked.workspace generated)
    (sameDirectories : Workspace.SameDirectories before asked.workspace) {step : Step Unit}
    (reached : step.site = (saveAll preparation correlation asked preparation.views).site)
    (ended : step.result = (saveAll preparation correlation asked preparation.views).result) :
    SameWork request before step.outcome.site asked ∧
      Agrees preparation asked step.outcome (.ok correlation) := by
  obtain ⟨directory, intoBefore⟩ := prepared.into
  have into := intoBefore.of_same sameDirectories
  obtain ⟨written, wrote, _into, saved⟩ :=
    saveAll_cases correlation (fun view member => prepared.named member) into
  have left : step.outcome.site = { asked with workspace := written } := reached.trans wrote
  have files : step.outcome.site.workspace = written := congrArg Site.workspace left
  rcases saved with ⟨done, all⟩ |
    ⟨earlier, view, later, failure, parts, _done, _reached, some, stops, failed⟩
  · constructor
    · rw [left]
      rw [← source] at all
      exact sameWork_of_saved leaves prepared.known all
    · rw [← files] at all
      exact .saved into all (ending_of_ok (ended.trans done))
  · constructor
    · have known (other : View) (member : other ∈ earlier) : other ∈ View.all := by
        refine prepared.known other ?_
        rw [parts]
        exact List.mem_append_left _ member
      rw [left]
      rw [← source] at some
      exact sameWork_of_saved leaves known some
    · rw [← files] at some stops
      exact .stopped into parts some stops (ending_of_untold (ended.trans failed))

end

/-- Behind its preparation, a run with a command does the work of the request, and agrees with it. -/
theorem runPrepared_agrees {environment : Environment} {site : Site} {invocation : Invocation}
    {preparation : Preparation} {options : Options} {line : String}
    (prepared : Prepared environment site.workspace invocation preparation)
    (noListing : options.listing = none) (given : options.command = some (.text line))
    (untargeted : given? options.target = none) (limit : Option Limit) {request : Request}
    (requests : requestFor site preparation options limit (Command.splitCommand line) = request)
    {asked : Site × List LogRecord × Except Failure Correlation}
    (asks : Compile.correlateRequest environment site request = asked) :
    let outcome := (runPrepared site preparation options limit).outcome
    SameWork request site.workspace outcome.site asked.1 ∧
      Agrees preparation asked.1 outcome asked.2.2 := by
  intro outcome
  rcases runPrepared_of_command prepared noListing given untargeted limit requests asks with
    ⟨failure, fails, same, failed⟩ |
    ⟨generated, correlation, succeeds, leaves, sameDirectories, same, ended⟩
  · have left : outcome.site = asked.1 := same
    rw [left, fails]
    exact ⟨.refl request site.workspace asked.1, .failed left (endsBy_of_error failed)⟩
  · have source : request.source = preparation.source := by
      rw [← requests]
      rfl
    rw [succeeds]
    exact agrees_of_saveAll prepared source leaves sameDirectories same ended

theorem run_of_unprepared {edition : Edition} {environment : Environment}
    {configured : Option Binary64} {site : Site} {arguments : List String}
    {invocation : Invocation} {fault : Fault}
    (parsed : Invocation.parse edition arguments = .ok invocation)
    (unprepared : prepare environment site.workspace invocation = .error fault) :
    run edition environment configured site arguments =
      (Step.failed site fault : Step Unit).outcome := by
  simp only [run, parsed, runInvocation, unprepared]

/-- A run with a command that cannot be prepared fails before it does anything. Any other one does
what is asked for by a request with the words of the command, the source as it was read, and the same
directories and limit: it does the same work, and it fails alike or saves the views of the same
correlation. Where the compiler is none whose listings can be read, neither does anything. -/
theorem run_agrees_with_request {edition : Edition} {environment : Environment}
    {configured : Option Binary64} {site : Site} {arguments : List String}
    {invocation : Invocation} {line : String}
    (parsed : Invocation.parse edition arguments = .ok invocation)
    (commanded : invocation.options.command = some (.text line))
    (untargeted : given? invocation.options.target = none) :
    let outcome := run edition environment configured site arguments
    (∀ fault, prepare environment site.workspace invocation = .error fault →
      outcome.site = site ∧ outcome.ending ≠ .exited 0) ∧
    ∀ preparation, prepare environment site.workspace invocation = .ok preparation →
      let request := requestFor site preparation invocation.options
        (invocation.options.limit configured) (Command.splitCommand line)
      let asked := Compile.correlateRequest environment site request
      SameWork request site.workspace outcome.site asked.1 ∧
        Agrees preparation asked.1 outcome asked.2.2 ∧
        (Command.detectCompiler (request.command.headD "") ≠ .msvc →
          outcome.site = site ∧ asked.1 = site ∧
            (asked.2.2 = .error (.unsupportedCompiler (request.command.headD "")) ∨
              asked.2.2 = .error (.unknownCompiler (request.command.headD "")))) := by
  intro outcome
  constructor
  · intro fault unprepared
    have fails : outcome = (Step.failed site fault : Step Unit).outcome :=
      run_of_unprepared parsed unprepared
    rw [fails]
    exact ⟨rfl, ending_of_error rfl⟩
  · intro preparation prepares request asked
    have prepared := prepared_of_prepare prepares
    have noListing : invocation.options.listing = none := by
      refine (oneOrigin_of_parse parsed).resolve_right ?_
      rw [commanded]
      exact nofun
    have requests : requestFor site preparation invocation.options
      (invocation.options.limit configured) (Command.splitCommand line) = request := rfl
    have asks : Compile.correlateRequest environment site request = asked := rfl
    -- With its value the request would be carried out here.
    clear_value asked request
    have runs : outcome = _ := run_of_prepare parsed prepares
    obtain ⟨work, agrees⟩ :=
      runPrepared_agrees prepared noListing commanded untargeted _ requests asks
    rw [← runs] at work agrees
    refine ⟨work, agrees, fun other => ?_⟩
    obtain ⟨refusal, refused, known⟩ := Compile.correlateRequest_of_other_family other
    rw [asks] at refused
    rw [refused] at agrees ⊢
    cases agrees with
    | failed same _ends =>
        exact ⟨same, rfl, known.imp (congrArg Except.error) (congrArg Except.error)⟩

/-- A source, and a compiler that leaves a listing of it. -/
def mainSite : Site :=
  { workspace := (Workspace.empty (Path.parse "/W")).addFile ["W", "main.c"]
      (Text.encodeUtf8 "int x;\n")
    runs := []
    behaviours := [.runs
      { duration := some (.ticks 0)
        listing := some (Text.encodeUtf8 "; File @TEMP@\n_TEXT SEGMENT\n; 1 : int x;\n\tnop\n")
        output := some []
        status := 0 }] }

def mainInvocation (command : String) : Invocation :=
  { source := "main.c", options := { command := some (.text command), formats := some "json" } }

/-- One compiler is started and its listing correlated, by the run as by the request; and another one
is started by neither. -/
theorem run_agrees_with_request_main :
    ∃ preparation asked,
      prepare {} mainSite.workspace (mainInvocation "cl") = .ok preparation ∧
      Compile.correlateRequest {} mainSite (requestFor mainSite preparation
        (mainInvocation "cl").options none (Command.splitCommand "cl")) = asked ∧
      (run .late {} none mainSite ["main.c", "--command", "cl", "--formats", "json"]).ending =
        .exited 0 ∧
      (run .late {} none mainSite ["main.c", "--command", "cl", "--formats", "json"]).site.runs =
        asked.1.runs ∧
      (∃ correlation, asked.2.2 = .ok correlation) ∧
      (run .late {} none mainSite ["main.c", "--command", "gcc", "--formats", "json"]).site =
        mainSite := by
  have parsed : Invocation.parse .late ["main.c", "--command", "cl", "--formats", "json"] =
      .ok (mainInvocation "cl") :=
    parse_commanded (by decide) (by decide) (by decide)
  have parsedOther : Invocation.parse .late ["main.c", "--command", "gcc", "--formats", "json"] =
      .ok (mainInvocation "gcc") :=
    parse_commanded (by decide) (by decide) (by decide)
  have some : (prepare {} mainSite.workspace (mainInvocation "cl")).toOption.isSome = true := by
    decide +kernel
  cases prepares : prepare {} mainSite.workspace (mainInvocation "cl") with
  | error fault =>
      rw [prepares] at some
      cases some
  | ok preparation =>
      have ends :
          (run .late {} none mainSite ["main.c", "--command", "cl", "--formats", "json"]).ending =
          .exited 0 := by
        decide +kernel
      obtain ⟨work, agrees, _started⟩ :=
        (@run_agrees_with_request .late {} none mainSite _ _ _ parsed rfl rfl).2 preparation prepares
      -- Named, the request is not carried out by the steps below.
      generalize asks : Compile.correlateRequest {} mainSite (requestFor mainSite preparation
        (mainInvocation "cl").options ((mainInvocation "cl").options.limit none)
        (Command.splitCommand "cl")) = asked at work agrees
      obtain ⟨_work, _agrees, idle⟩ :=
        (@run_agrees_with_request .late {} none mainSite _ _ _ parsedOther rfl rfl).2 preparation
          ((prepare_of_origin {} mainSite.workspace (mainInvocation "cl") none _).trans prepares)
      have family : Command.detectCompiler ((Command.splitCommand "gcc").headD "") ≠ .msvc := by
        decide +kernel
      exact ⟨preparation, asked, rfl, asks, ends, work.runs, agrees.exists_of_exited ends,
        (idle family).1⟩

/-! ### A name with room for one view -/

/-- The site of the long name, and a compiler that leaves an empty listing. -/
def longCompiled : Site :=
  { longSite with
    behaviours := [.runs
      { duration := some (.ticks 0), listing := some [], output := some [], status := 0 }] }

def longCommand : Invocation :=
  { longInvocation with
    options := { longInvocation.options with listing := none, command := some (.text "cl") } }

def longRequest : Request :=
  requestFor longCompiled longPreparation longCommand.options
    (longCommand.options.limit none) (Command.splitCommand "cl")

theorem parse_longCommand :
    Invocation.parse .late [longName, "--command", "cl", "--formats", "annotated,decorations"] =
      .ok longCommand :=
  parse_commanded plain_longName (by decide) (by decide)

theorem prepare_longCommand :
    prepare {} longCompiled.workspace longCommand = .ok longPreparation :=
  (prepare_of_origin {} longSite.workspace longInvocation none (some (.text "cl"))).trans
    prepare_longName

theorem noNull_long : '\x00' ∉ (SourceFile.temporaryMark ++ longName).toList ∧
    '\x00' ∉ (longStem ++ SourceFile.listingSuffix).toList := by
  have letters : '\x00' ∉ List.replicate 240 'a' :=
    fun member => absurd (List.eq_of_mem_replicate member) (by decide)
  simp only [String.toList_append, toList_longName, toList_longStem, List.mem_append, not_or]
  exact ⟨⟨by decide, letters, by decide⟩, letters, by decide⟩

/-- What the copy of the source of the long name leaves. -/
def longCopied : Workspace :=
  longCompiled.workspace.setFile (["W"] ++ [SourceFile.temporaryMark ++ longName])
    (Text.encodeUtf8 "int x;\n")

theorem freeCopy_longCompiled :
    longCompiled.workspace.node? (["W"] ++ [SourceFile.temporaryMark ++ longName]) = none := by
  decide +kernel

theorem writeBytes_longCopy :
    longCompiled.workspace.writeBytes (longRequest.copyIn longCompiled.workspace)
      (Text.encodeUtf8 "int x;\n") = .ok longCopied := by
  obtain ⟨noNull, leads, here⟩ := leadsInto_longSite
  have copy : longRequest.copyIn longCompiled.workspace =
    longPreparation.outputDirectory.child (SourceFile.temporaryMark ++ longName) := rfl
  rw [copy]
  exact Workspace.writeBytes_child noNull noNull_long.1 (SourceFile.copy_ne_upward longName) leads
    here (by decide +kernel) freeCopy_longCompiled (Text.encodeUtf8 "int x;\n")

/-- The copy does not take the place of the listing. -/
theorem freeListing_longCopied :
    longCopied.node? (["W"] ++ [longStem ++ SourceFile.listingSuffix]) = none := by
  have apart := SourceFile.copy_ne_listing longPreparation.source
  rw [stem_longName] at apart
  have notDirectory : longCompiled.workspace.node?
      (["W"] ++ [SourceFile.temporaryMark ++ longName]) ≠ some .directory := by
    rw [freeCopy_longCompiled]
    exact nofun
  rw [longCopied, Workspace.node?_setFile notDirectory, if_neg]
  · decide +kernel
  · intro same
    exact apart (List.singleton_inj.mp (List.append_cancel_left same)).symm

theorem writeBytes_longListing (content : Text.Bytes) :
    ∃ left, longCopied.writeBytes (longRequest.listingIn longCompiled.workspace) content =
      .ok left := by
  obtain ⟨noNull, leads, here⟩ := leadsInto_longSite
  have same : Workspace.SameDirectories longCompiled.workspace longCopied :=
    Workspace.sameDirectories_writeBytes writeBytes_longCopy
  have stem : (longCompiled.workspace.absolute longRequest.source).stem = longStem :=
    stem_of_longName rfl
  have listing : longRequest.listingIn longCompiled.workspace =
      longPreparation.outputDirectory.child (longStem ++ SourceFile.listingSuffix) := by
    unfold Compile.Request.listingIn SourceFile.listing
    rw [stem]
    rfl
  rw [listing]
  exact ⟨_, Workspace.writeBytes_child noNull noNull_long.2 (SourceFile.listing_ne_upward longStem)
    (Workspace.locate_of_same same leads) ((same.directories ["W"]).mpr here) (by decide +kernel)
    freeListing_longCopied content⟩

theorem spelled_longListing : (longRequest.listingIn longCompiled.workspace).Spelled := by
  have rooted : longCompiled.workspace.workingDirectory.Spelled := Path.spelled_parse "/W"
  have source : longPreparation.source.Spelled := by
    rw [← parse_longName]
    exact Path.spelled_parse longName
  exact (rooted.join source).listing (rooted.join rooted)

theorem spelled_longCopy : (longRequest.copyIn longCompiled.workspace).Spelled := by
  have rooted : longCompiled.workspace.workingDirectory.Spelled := Path.spelled_parse "/W"
  have source : longPreparation.source.Spelled := by
    rw [← parse_longName]
    exact Path.spelled_parse longName
  exact (rooted.join source).temporaryCopy

theorem not_tellsNull_longRequest : ¬ longRequest.TellsNull longCompiled.workspace := by
  obtain ⟨_left, lists⟩ := writeBytes_longListing []
  have listing := Compile.not_mem_toString spelled_longListing.root
    (Workspace.holdsNull_of_writeBytes lists)
  have copy := Compile.not_mem_toString spelled_longCopy.root
    (Workspace.holdsNull_of_writeBytes writeBytes_longCopy)
  rintro ⟨text, told, null⟩
  have program : longRequest.command = ["cl"] := by decide +kernel
  have directory : longRequest.directory = "/W" := by decide +kernel
  have kept : Command.keptArguments [] = [] := by decide
  simp only [Compile.Request.argumentsIn, Command.listingArguments, program, directory, kept,
    List.headD_cons, List.tail_cons, List.append_nil, List.cons_append, List.nil_append,
    List.mem_cons, List.not_mem_nil, or_false] at told
  rcases told with rfl | rfl | rfl | rfl | rfl | rfl | rfl
  · exact absurd null (by decide)
  · exact absurd null (by decide)
  · exact absurd null (by decide)
  · rw [String.toList_append, List.mem_append] at null
    exact null.elim (by decide) listing
  · rw [String.toList_append, String.toList_append, List.mem_append, List.mem_append] at null
    rcases null with (null | null) | null
    · exact absurd null (by decide)
    · exact listing null
    · exact absurd null (by decide)
  · exact absurd null (by decide)
  · exact copy null

theorem generate_longRequest :
    ∃ generated, (Compile.generate longCompiled longRequest).2.2 = .ok generated ∧
      generated.text = "" := by
  obtain ⟨left, lists⟩ := writeBytes_longListing
    (Compile.writtenListing (longRequest.argumentsIn longCompiled.workspace) [])
  have starts : longRequest.launchOn longCompiled = .ok _ :=
    (Compile.launchOn_of_system rfl).2 not_tellsNull_longRequest
  exact ⟨_, Compile.generate_succeeds (by decide +kernel)
    (Text.EditorText.toString?_ofString "int x;\n") spelled_longListing writeBytes_longCopy starts
    rfl rfl rfl lists, rfl⟩

theorem correlateRequest_longRequest :
    (Compile.correlateRequest {} longCompiled longRequest).2.2 =
      .ok { sourceName := longName, entries := [] } := by
  obtain ⟨generated, succeeds, nothing⟩ := generate_longRequest
  have accepted : Compile.checkFamily longRequest.command = .ok () := by decide +kernel
  rw [Compile.correlateRequest_of_accepted accepted, succeeds]
  change Compile.correlateGenerated {} longRequest generated = _
  have loaded : loadPalette {} = .ok defaultPalette := by decide
  unfold Compile.correlateGenerated
  have separated : (Presentation.configured {} defaultPalette).separator = .ok "\r\n" := by
    decide +kernel
  rw [loaded, nothing]
  exact correlate_nothing generated.target (longRequest.text.toString?.getD "")
    longRequest.source.name separated

/-- The request is answered, and the run with the same command fails. -/
theorem run_fails_beside_request :
    Invocation.parse .late [longName, "--command", "cl", "--formats", "annotated,decorations"] =
        .ok longCommand ∧
      prepare {} longCompiled.workspace longCommand = .ok longPreparation ∧
      (Compile.correlateRequest {} longCompiled longRequest).2.2 =
        .ok { sourceName := longName, entries := [] } ∧
      ∃ failure, (run .late {} none longCompiled
        [longName, "--command", "cl", "--formats", "annotated,decorations"]).ending =
          .raised failure := by
  refine ⟨parse_longCommand, prepare_longCommand, correlateRequest_longRequest, ?_⟩
  have prepared := prepared_of_prepare prepare_longCommand
  have noListing : longCommand.options.listing = none := rfl
  have given : longCommand.options.command = some (.text "cl") := rfl
  have untargeted : given? longCommand.options.target = none := rfl
  have requests : requestFor longCompiled longPreparation longCommand.options
      (longCommand.options.limit none) (Command.splitCommand "cl") = longRequest := rfl
  have answered := correlateRequest_longRequest
  generalize asks : Compile.correlateRequest {} longCompiled longRequest = asked at answered
  rw [run_of_prepare parse_longCommand prepare_longCommand]
  rcases runPrepared_of_command prepared noListing given untargeted _ requests asks with
    ⟨failure, fails, _same, _failed⟩ |
    ⟨generated, correlation, _succeeds, _leaves, sameDirectories, _same, ended⟩
  · rw [answered] at fails
    cases fails
  · have into : LeadsInto _ longPreparation.outputDirectory ["W"] :=
      leadsInto_longSite.of_same sameDirectories
    obtain ⟨failure, failed⟩ := saveAll_of_long correlation
      (fun view member => prepared.named member) into
      (List.mem_cons_of_mem _ List.mem_cons_self : View.decorations ∈ longPreparation.views)
      not_fits_longDecorations
    exact ⟨failure, ending_of_untold (ended.trans failed)⟩

end ListingAtlas.CommandLine
