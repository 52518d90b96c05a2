import ListingAtlas.CommandLine.Program
import ListingAtlas.Proofs.CommandLine.Preparing
import ListingAtlas.Proofs.Correlation.Ranges

/-!
Runs on a listing that is given. Everything that can be wrong before the views are saved is found
before the first of them is, so such a run changes nothing or saves views; and no run changes what
was there. Between two views only a name that is too long can end it.
-/

namespace ListingAtlas.CommandLine

open Compile (Limit Site)
open Number (Binary64)

/-! ### Arguments -/

section

variable {edition : Edition}

/-- What does not begin with a hyphen is no switch. -/
theorem classify_plain {text : String} (plain : text.toList.head? ≠ some '-') :
    classify edition text = .ok (.plain text) := by
  unfold classify
  split
  · rename_i starts
    rw [starts] at plain
    exact absurd rfl plain
  · rfl

theorem classifyAll_cons {text : String} {argument : Argument}
    (single : text ≠ dividerText) (classified : classify edition text = .ok argument)
    (rest : List String) :
    classifyAll edition (text :: rest) =
      (classifyAll edition rest).map (argument :: ·) := by
  rw [classifyAll, if_neg (by simpa using single), classified]
  cases classifyAll edition rest <;> rfl

theorem classifyAll_plain {text : String} (plain : text.toList.head? ≠ some '-')
    (rest : List String) :
    classifyAll edition (text :: rest) =
      (classifyAll edition rest).map (.plain text :: ·) := by
  apply classifyAll_cons _ (classify_plain plain)
  intro divider
  rw [divider] at plain
  exact absurd rfl plain

/-- Values that are not switches stand behind their switches as they are. -/
theorem parse_given {source listing formats : String}
    (plainSource : source.toList.head? ≠ some '-') (plainListing : listing.toList.head? ≠ some '-')
    (plainFormats : formats.toList.head? ≠ some '-') :
    Invocation.parse edition [source, "--listing", listing, "--formats", formats] =
      .ok { source, options := { listing := some listing, formats := some formats } } := by
  have switches : classify edition "--listing" = .ok (.switch .listing .nothing) ∧
      classify edition "--formats" = .ok (.switch .formats .nothing) := by
    cases edition <;> decide +kernel
  unfold Invocation.parse
  rw [classifyAll_plain plainSource, classifyAll_cons (by decide) switches.1,
    classifyAll_plain plainListing, classifyAll_cons (by decide) switches.2,
    classifyAll_plain plainFormats]
  rfl

end

/-! ### A listing that is given -/

/-- Where there is no command, a listing is read if one is given, and nothing changes. -/
theorem findMaterial_of_no_command (site : Site) (preparation : Preparation) {options : Options}
    (limit : Option Limit) (noCommand : options.command = none) :
    let found := findMaterial site preparation options limit
    found.site = site ∧ ∀ material, found.result = .ok material → ∃ listing,
      given? options.listing = some listing ∧
        site.workspace.readListing (Path.parse listing) = .ok material.listing ∧
        material.target = preparation.source.toString := by
  unfold findMaterial
  cases given : given? options.listing with
  | none =>
      rw [noCommand]
      exact ⟨rfl, fun material found => by cases found⟩
  | some listing =>
      refine ⟨rfl, ?_⟩
      intro material found
      obtain ⟨text, read, same⟩ := map_eq_ok_iff.mp found
      rw [← same]
      exact ⟨listing, rfl, mapError_eq_ok_iff.mp read, rfl⟩

/-- A listing that is given and can be read is found. -/
theorem findMaterial_given {site : Site} {options : Options} {listing text : String}
    (preparation : Preparation) (limit : Option Limit) (given : given? options.listing = some listing)
    (read : site.workspace.readListing (Path.parse listing) = .ok text) :
    (findMaterial site preparation options limit).site = site ∧
      (findMaterial site preparation options limit).result =
        .ok { listing := text, target := preparation.source.toString } := by
  unfold findMaterial
  rw [given]
  refine ⟨rfl, ?_⟩
  simp only [readMaterial, Step.andThen, Step.print, Step.check, read]
  rfl

/-- The source that an invocation names has been prepared, and the listing that it gives correlated
with it: by the target given, or else by the path of the source. -/
structure Correlated (environment : Environment) (workspace : Workspace) (invocation : Invocation)
    (preparation : Preparation) (correlation : Correlation) : Prop where
  prepared : Prepared environment workspace invocation preparation
  correlates : ∃ listing text, given? invocation.options.listing = some listing ∧
    workspace.readListing (Path.parse listing) = .ok text ∧
    correlate preparation.dialect preparation.presentation text
      ((given? invocation.options.target).getD preparation.source.toString)
      preparation.text preparation.source.name = .ok correlation

/-- How a run without a command ends, and what it leaves. -/
theorem runInvocation_cases (environment : Environment) (configured : Option Binary64) (site : Site)
    {invocation : Invocation} (noCommand : invocation.options.command = none) :
    let step := runInvocation environment configured site invocation
    let before := site.workspace
    let after := step.site.workspace
    (∃ fault, after = before ∧ step.result = .error fault) ∨
      ∃ preparation correlation directory,
        Correlated environment before invocation preparation correlation ∧
        LeadsInto before preparation.outputDirectory directory ∧
        (step.result = .ok () ∧
            Saved directory preparation.source.stem correlation preparation.views before after ∨
          ∃ earlier view later failure, preparation.views = earlier ++ view :: later ∧
            Saved directory preparation.source.stem correlation earlier before after ∧
            Stops preparation after directory view failure ∧
            step.result = .error (.untold failure)) := by
  intro step before after
  cases prepares : prepare environment site.workspace invocation with
  | error fault =>
      have failed : step = Step.failed site fault := by
        simp only [step, runInvocation, prepares]
      refine Or.inl ⟨fault, ?_, ?_⟩
      · simp only [after, failed, Step.failed, before]
      · simp only [failed, Step.failed]
  | ok preparation =>
      let allowed := invocation.options.limit configured
      have runs : step = runPrepared site preparation invocation.options allowed := by
        simp only [step, runInvocation, prepares, allowed]
      obtain ⟨unchanged, found⟩ :=
        findMaterial_of_no_command site preparation allowed noCommand
      have ended := runPrepared_cases site preparation invocation.options allowed
      simp only [← runs, unchanged] at ended
      rcases ended with ⟨fault, _finds, same, failed⟩ |
        ⟨material, failure, _finds, _refused, same, failed⟩ |
        ⟨material, correlation, finds, correlated, same, ends⟩
      · exact Or.inl ⟨fault, congrArg Site.workspace same, failed⟩
      · exact Or.inl ⟨_, congrArg Site.workspace same, failed⟩
      · have prepared := prepared_of_prepare prepares
        obtain ⟨listing, given, read, target⟩ := found material finds
        obtain ⟨directory, into⟩ := prepared.into
        unfold Preparation.correlated at correlated
        rw [target] at correlated
        refine Or.inr ⟨preparation, correlation, directory,
          ⟨prepared, listing, material.listing, given, read, correlated⟩, into, ?_⟩
        obtain ⟨written, wrote, _into, saved⟩ :=
          saveAll_cases correlation (fun view member => prepared.named member) into
        have reached : after = written := by
          simp only [after, same, wrote]
        rw [ends, reached]
        rcases saved with all |
          ⟨earlier, view, later, failure, parts, _done, _same, some, stops, failed⟩
        · exact Or.inl all
        · exact Or.inr ⟨earlier, view, later, failure, parts, some, stops, failed⟩

/-! ### Stopping -/

/-- In a listing of nothing, nothing correlates. -/
theorem Preparation.correlated_nothing (preparation : Preparation) (options : Options)
    (target : String) {separator : String} (dialect : preparation.dialect = Listing.Msvc.dialect)
    (separated : preparation.presentation.separator = .ok separator) :
    preparation.correlated options { listing := "", target } =
      .ok { sourceName := preparation.source.name, entries := [] } := by
  unfold Preparation.correlated
  rw [dialect]
  exact correlate_nothing _ _ _ separated

theorem run_of_prepare {edition : Edition} {environment : Environment}
    {configured : Option Binary64} {site : Site} {arguments : List String}
    {invocation : Invocation} {preparation : Preparation}
    (parsed : Invocation.parse edition arguments = .ok invocation)
    (prepares : prepare environment site.workspace invocation = .ok preparation) :
    run edition environment configured site arguments =
      (runPrepared site preparation invocation.options
        (invocation.options.limit configured)).outcome := by
  simp only [run, parsed, runInvocation, prepares]

/-- A run ends at the first view whose name is too long; the views before it are saved. -/
theorem run_of_stops {edition : Edition} {environment : Environment}
    {configured : Option Binary64} {site : Site} {arguments : List String}
    {invocation : Invocation} {preparation : Preparation}
    {material : Material} {correlation : Correlation} {directory : Place}
    {earlier later : List View} {view : View} {failure : Failure}
    (parsed : Invocation.parse edition arguments = .ok invocation)
    (prepares : prepare environment site.workspace invocation = .ok preparation)
    (reaches : (findMaterial site preparation invocation.options
      (invocation.options.limit configured)).site = site)
    (finds : (findMaterial site preparation invocation.options
      (invocation.options.limit configured)).result = .ok material)
    (correlates : preparation.correlated invocation.options material = .ok correlation)
    (parts : preparation.views = earlier ++ view :: later)
    (into : LeadsInto site.workspace preparation.outputDirectory directory)
    (done : (saveAll preparation correlation site earlier).result = .ok ())
    (stops : Stops preparation (saveAll preparation correlation site earlier).site.workspace
      directory view failure) :
    (run edition environment configured site arguments).site =
        (saveAll preparation correlation site earlier).site ∧
      (run edition environment configured site arguments).ending = .raised failure := by
  have named : ∀ view ∈ preparation.views, Named preparation view :=
    fun view member => (prepared_of_prepare prepares).named member
  obtain ⟨left, failed⟩ := runPrepared_of_stops reaches finds correlates named parts into done stops
  rw [run_of_prepare parsed prepares]
  exact ⟨left, ending_of_untold failed⟩

/-! ### All or nothing -/

/-- A run on a listing changes nothing that was there. Either it adds nothing and fails, or it has
correlated the listing, and saves one view after another of those asked for, each under a new name in
the output directory. It succeeds when all of them are saved; and it fails between them just where
the name of the next one is too long to be asked for. -/
theorem run_saves_all_or_stops (edition : Edition) (environment : Environment)
    (configured : Option Binary64) (site : Site) (arguments : List String) {invocation : Invocation}
    (parsed : Invocation.parse edition arguments = .ok invocation)
    (noCommand : invocation.options.command = none) :
    let outcome := run edition environment configured site arguments
    let before := site.workspace
    let after := outcome.site.workspace
    (∀ place node, before.node? place = some node → after.node? place = some node) ∧
      (after = before ∧ outcome.ending ≠ .exited 0 ∨
        ∃ preparation correlation directory,
          Correlated environment before invocation preparation correlation ∧
          LeadsInto before preparation.outputDirectory directory ∧
          (outcome.ending = .exited 0 ∧
              Saved directory preparation.source.stem correlation preparation.views before after ∨
            ∃ earlier view later failure, preparation.views = earlier ++ view :: later ∧
              Saved directory preparation.source.stem correlation earlier before after ∧
              Stops preparation after directory view failure ∧
              outcome.ending = .raised failure)) := by
  intro outcome before after
  let step := runInvocation environment configured site invocation
  have runs : outcome = step.outcome := by
    simp only [outcome, run, parsed, step]
  have reached : after = step.site.workspace := congrArg (·.site.workspace) runs
  rw [runs, reached]
  rcases runInvocation_cases environment configured site noCommand with ⟨fault, same, failed⟩ |
    ⟨preparation, correlation, directory, correlated, into, ended⟩
  · refine ⟨?_, Or.inl ⟨same, ending_of_error failed⟩⟩
    intro place node here
    rw [same]
    exact here
  · rcases ended with ⟨succeeds, saved⟩ |
      ⟨earlier, view, later, failure, parts, saved, stops, fails⟩
    · exact ⟨fun place node here => saved.node? here, Or.inr ⟨preparation, correlation, directory,
        correlated, into, Or.inl ⟨ending_of_ok succeeds, saved⟩⟩⟩
    · exact ⟨fun place node here => saved.node? here, Or.inr ⟨preparation, correlation, directory,
        correlated, into, Or.inr ⟨earlier, view, later, failure, parts, saved, stops,
          ending_of_untold fails⟩⟩⟩

/-- A key that is given twice, beside the file of an earlier run. -/
theorem run_saves_twice_beside_older :
    let older := Text.encodeUtf8 "older"
    let site : Site :=
      { workspace := (((Workspace.empty (Path.parse "/W")).addFile ["W", "main.c"]
            (Text.encodeUtf8 "int x;\n")).addFile ["W", "main.asm"]
            (Text.encodeUtf8 "; File main.c\n_TEXT SEGMENT\n; 1 : int x;\n\tnop\n")).addFile
            ["W", "main-annotated.asm"] older
        runs := []
        behaviours := [] }
    let arguments := ["main.c", "--listing", "main.asm", "--formats", "annotated,annotated"]
    let invocation : Invocation :=
      { source := "main.c"
        options := { listing := some "main.asm", formats := some "annotated,annotated" } }
    Invocation.parse .late arguments = .ok invocation ∧ invocation.options.command = none ∧
      (run .late {} none site arguments).site.workspace.node? ["W", "main-annotated.asm"] =
        some (.file older) ∧
      (run .late {} none site arguments).ending = .exited 0 ∧
      (run .late {} none site arguments).site.workspace.nodes.keys = site.workspace.nodes.keys ++
        [["W", "main-annotated-2.asm"], ["W", "main-annotated-3.asm"]] := by
  intro older site arguments invocation
  have parsed : Invocation.parse .late arguments = .ok invocation :=
    parse_given (by decide) (by decide) (by decide)
  have kept := (run_saves_all_or_stops .late {} none site arguments parsed rfl).1
  refine ⟨parsed, rfl, kept _ _ (by decide +kernel), ?_⟩
  decide +kernel

/-! ### A name with room for one view -/

/-- A stem so long that one suffix fits behind it and another one does not. -/
def longStem : String := String.ofList (List.replicate 240 'a')

def longName : String := longStem ++ ".c"

def longSite : Site :=
  { workspace := ((Workspace.empty (Path.parse "/W")).addFile ["W", longName]
      (Text.encodeUtf8 "int x;\n")).addFile ["W", "main.asm"] []
    runs := []
    behaviours := [] }

def longInvocation : Invocation :=
  { source := longName
    options := { listing := some "main.asm", formats := some "annotated,decorations" } }

def longPreparation : Preparation :=
  { source := { root := "", parts := [longName] }
    text := "int x;\n"
    outputDirectory := { root := "/", parts := ["W"] }
    views := [View.annotated, View.decorations]
    dialect := Listing.Msvc.dialect
    presentation := Presentation.configured {} defaultPalette }

theorem toList_longStem : longStem.toList = List.replicate 240 'a' :=
  String.toList_ofList

theorem toList_longName : longName.toList = List.replicate 240 'a' ++ ".c".toList :=
  String.toList_append.trans (congrArg (fun stem => stem ++ ".c".toList) toList_longStem)

theorem not_mem_longName {character : Char} (other : character ∉ "a.c".toList) :
    character ∉ longName.toList := by
  rw [toList_longName, List.mem_append]
  intro member
  apply other
  cases member with
  | inl letter => exact List.eq_of_mem_replicate letter ▸ List.mem_cons_self
  | inr suffix => exact List.mem_cons_of_mem _ suffix

theorem parse_longName : Path.parse longName = longPreparation.source := by
  apply Path.parse_name
  refine ⟨?_, ?_, not_mem_longName (by decide)⟩
  · rw [toList_longName]
    decide
  · rw [toList_longName]
    decide

theorem stem_of_longName {path : Path} (called : path.name = longName) : path.stem = longStem := by
  rw [Path.stem, called,
    Path.splitName_of_dot toList_longName (by decide) (by decide) (by decide)]
  rfl

theorem stem_longName : longPreparation.source.stem = longStem :=
  stem_of_longName rfl

theorem holdsNull_longName : Workspace.holdsNull longPreparation.source = false := by
  have parts : longPreparation.source.parts = [longName] := rfl
  rw [Workspace.holdsNull, parts, List.any_cons, List.any_nil, Bool.or_false, List.contains_eq_mem,
    decide_eq_false (not_mem_longName (by decide))]

theorem prepare_longName :
    prepare {} longSite.workspace longInvocation = .ok longPreparation := by
  have file : longSite.workspace.isFile longPreparation.source = .ok true := by
    rw [Workspace.isFile, Workspace.probe, holdsNull_longName]
    decide +kernel
  have text : longSite.workspace.readSource longPreparation.source = .ok "int x;\n" := by
    rw [Workspace.readSource, holdsNull_longName]
    decide +kernel
  have resolved : outputPath longSite.workspace longPreparation.source longInvocation.options =
      .ok longPreparation.outputDirectory := by
    change (longSite.workspace.resolve longPreparation.source).map Path.parent = _
    rw [Workspace.resolve, holdsNull_longName]
    decide +kernel
  have output := findOutputDirectory_eq_ok_iff.mpr ⟨resolved, by decide +kernel⟩
  have views : findViews (some "annotated,decorations") = .ok longPreparation.views := rfl
  have formats : longInvocation.options.formats = some "annotated,decorations" := rfl
  rw [prepare_eq]
  simp only [show Path.parse longInvocation.source = longPreparation.source from parse_longName]
  rw [file, output, formats, views, text]
  rfl

theorem plain_longName : longName.toList.head? ≠ some '-' := by
  rw [toList_longName]
  decide

theorem leadsInto_longSite :
    LeadsInto longSite.workspace longPreparation.outputDirectory ["W"] :=
  ⟨by decide +kernel, by decide +kernel, by decide +kernel⟩

theorem not_fits_longDecorations :
    ¬ Workspace.Fits longPreparation.outputDirectory
      (longPreparation.source.stem ++ View.decorations.suffix) := by
  rw [stem_longName]
  decide +kernel

/-- The first view is saved, and then the run ends by a failure. -/
theorem first_view_left_behind :
    let arguments := [longName, "--listing", "main.asm", "--formats", "annotated,decorations"]
    (run .late {} none longSite arguments).ending =
        .raised (.unusablePath .nameTooLong ("/W/" ++ longStem ++ "-decorations.json")) ∧
      ∃ place content, longSite.workspace.node? place = none ∧
        (run .late {} none longSite arguments).site.workspace.node? place = some (.file content) := by
  intro arguments
  have parsed : Invocation.parse .late arguments = .ok longInvocation :=
    parse_given plain_longName (by decide) (by decide)
  obtain ⟨reaches, finds⟩ := findMaterial_given longPreparation
    (longInvocation.options.limit none) (show given? longInvocation.options.listing = _ from rfl)
    (show longSite.workspace.readListing (Path.parse "main.asm") = .ok "" by decide +kernel)
  have correlates := longPreparation.correlated_nothing longInvocation.options
    longPreparation.source.toString rfl rfl
  have room : Workspace.Fits longPreparation.outputDirectory
      (longPreparation.source.stem ++ View.annotated.suffix) := by
    rw [stem_longName]
    decide +kernel
  have free : longSite.workspace.node?
      (["W"] ++ [longPreparation.source.stem ++ View.annotated.suffix]) = none := by
    rw [stem_longName]
    decide +kernel
  have path : (longPreparation.outputDirectory.child
      (longPreparation.source.stem ++ View.decorations.suffix)).toString =
        "/W/" ++ longStem ++ "-decorations.json" := by
    rw [stem_longName]
    decide +kernel
  have named : Named longPreparation View.annotated :=
    (prepared_of_prepare prepare_longName).named List.mem_cons_self
  obtain ⟨done, saved⟩ :=
    saveAll_of_free { sourceName := longPreparation.source.name, entries := [] } named
      leadsInto_longSite room
      free
  have parts : longPreparation.views = [View.annotated] ++ View.decorations :: [] := rfl
  have ended := run_of_stops parsed prepare_longName reaches finds correlates parts
    leadsInto_longSite done (stops_of_long not_fits_longDecorations)
  obtain ⟨file, missing, written⟩ := saved.exists_file List.mem_cons_self
  rw [← ended.1] at written
  rw [path] at ended
  exact ⟨ended.2, _, _, missing, written⟩

end ListingAtlas.CommandLine
