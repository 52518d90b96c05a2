import ListingAtlas.Proofs.CommandLine.Saving
import ListingAtlas.Proofs.Correlation.Entries
import ListingAtlas.Proofs.Outcome
import ListingAtlas.Proofs.Palette

/-!
What comes before the views. A preparation that succeeds has found its source, a directory for the
output, the views of the keys asked for, and colors; nothing is changed by it. Behind it a run finds a
listing and correlates it, and only then begins to save.
-/

namespace ListingAtlas.CommandLine

open Compile (Limit Site)

/-! ### What is told -/

section

variable {Result : Type} {outcome : Except Failure Result} {result : Result} {failure : Failure}

theorem raise_eq_ok_iff : raise outcome = .ok result ↔ outcome = .ok result :=
  mapError_eq_ok_iff

theorem tell_eq_ok_iff : tell outcome = .ok result ↔ outcome = .ok result :=
  mapError_eq_ok_iff

end

/-! ### The output directory -/

/-- The path of the output directory: the one given, else that of the source, resolved. -/
def outputPath (workspace : Workspace) (source : Path) (options : Options) : Except Failure Path :=
  match given? options.outputDirectory with
  | some directory => workspace.resolve (Path.parse directory)
  | none => (workspace.resolve source).map Path.parent

section

variable {workspace : Workspace} {source path : Path} {options : Options}

theorem findOutputDirectory_eq (workspace : Workspace) (source : Path) (options : Options) :
    findOutputDirectory workspace source options =
      (raise (outputPath workspace source options)).bind fun directory =>
        (raise (workspace.isDirectory directory)).bind fun there =>
          if there then .ok directory
          else .error (.because ("Output directory does not exist: " ++ directory.toString)) := by
  unfold findOutputDirectory outputPath
  simp only [bind, pure, Except.pure]
  cases given? options.outputDirectory with
  | some directory => rfl
  | none => cases workspace.resolve source <;> rfl

theorem findOutputDirectory_eq_ok_iff :
    findOutputDirectory workspace source options = .ok path ↔
      outputPath workspace source options = .ok path ∧
        workspace.probe path = .ok (some .directory) := by
  rw [findOutputDirectory_eq, bind_eq_ok_iff]
  simp only [bind_eq_ok_iff, raise_eq_ok_iff]
  constructor
  · rintro ⟨directory, found, there, looked, kept⟩
    cases there with
    | false => cases kept
    | true =>
        have same : directory = path := Except.ok.inj kept
        rw [← same]
        exact ⟨found, Workspace.probe_of_isDirectory looked⟩
  · rintro ⟨found, probed⟩
    refine ⟨path, found, true, ?_, rfl⟩
    rw [Workspace.isDirectory, probed]
    rfl

end

/-! ### Views -/

/-- The keys of a list between commas; all of them if there is no list. -/
def selectedKeys (formats : Option String) : List String :=
  match given? formats with
  | none => View.all.map View.key
  | some formats => (commaSeparated formats.toList).map String.ofList

/-- A view that is known, and its key. -/
def Chosen (key : List Char) (view : View) : Prop :=
  view ∈ View.all ∧ view.key = String.ofList key

theorem keys_of_chosen {keys : List (List Char)} {views : List View}
    (each : List.Forall₂ Chosen keys views) :
    views.map View.key = keys.map String.ofList ∧ ∀ view ∈ views, view ∈ View.all := by
  induction each with
  | nil => exact ⟨rfl, by simp⟩
  | cons here _rest ih =>
      rw [List.map_cons, List.map_cons, here.2, ih.1]
      exact ⟨rfl, List.forall_mem_cons.mpr ⟨here.1, ih.2⟩⟩

/-- Just the views of the keys are found, in the order of the keys. -/
theorem findViews_eq_ok {formats : Option String} {views : List View}
    (found : findViews formats = .ok views) :
    views.map View.key = selectedKeys formats ∧ ∀ view ∈ views, view ∈ View.all := by
  unfold findViews at found
  unfold selectedKeys
  cases given : given? formats with
  | none =>
      rw [given] at found
      have same : View.all = views := Except.ok.inj found
      rw [← same]
      exact ⟨rfl, fun view member => member⟩
  | some keys =>
      rw [given] at found
      apply keys_of_chosen
      refine (forall₂_of_mapM found).imp ?_
      intro key view one
      split at one
      · rename_i other known
        have same : other = view := Except.ok.inj one
        rw [← same]
        exact ⟨List.mem_of_find?_eq_some known, by simpa using List.find?_some known⟩
      · cases one

theorem prepare_eq (environment : Environment) (workspace : Workspace) (invocation : Invocation) :
    let source := Path.parse invocation.source
    prepare environment workspace invocation =
      (raise (workspace.isFile source)).bind fun isFile =>
        if isFile then
          (findOutputDirectory workspace source invocation.options).bind fun outputDirectory =>
          (findViews invocation.options.formats).bind fun views =>
          (findDialect invocation.options.dialect).bind fun dialect =>
          (tell (loadPalette environment)).bind fun palette =>
          (raise (workspace.readSource source)).bind fun text =>
            .ok { source, text, outputDirectory, views, dialect
                  presentation := Presentation.configured environment palette }
        else .error (.because ("File not found: " ++ source.toString)) := by
  unfold prepare
  simp only [bind, pure, Except.pure]
  congr 1
  funext isFile
  cases isFile <;> rfl

/-- What a preparation has found. -/
structure Prepared (environment : Environment) (workspace : Workspace) (invocation : Invocation)
    (preparation : Preparation) : Prop where
  source : preparation.source = Path.parse invocation.source
  file : workspace.isFile preparation.source = .ok true
  text : workspace.readSource preparation.source = .ok preparation.text
  outputDirectory : outputPath workspace preparation.source invocation.options =
    .ok preparation.outputDirectory
  into : ∃ directory, LeadsInto workspace preparation.outputDirectory directory
  keys : preparation.views.map View.key = selectedKeys invocation.options.formats
  known : ∀ view ∈ preparation.views, view ∈ View.all
  dialect : findDialect invocation.options.dialect = .ok preparation.dialect
  presentation : ∃ palette, loadPalette environment = .ok palette ∧
    preparation.presentation = Presentation.configured environment palette

section

variable {environment : Environment} {workspace : Workspace} {invocation : Invocation}
  {preparation : Preparation}

theorem leadsInto_of_probe {path : Path} (probed : workspace.probe path = .ok (some .directory)) :
    ∃ directory, LeadsInto workspace path directory := by
  obtain ⟨noNull, directory, leads, here⟩ := Workspace.probe_eq_some_iff.mp probed
  exact ⟨directory, noNull, leads, here⟩

theorem prepared_of_prepare (prepares : prepare environment workspace invocation = .ok preparation) :
    Prepared environment workspace invocation preparation := by
  rw [prepare_eq] at prepares
  obtain ⟨isFile, file, prepares⟩ := bind_eq_ok_iff.mp prepares
  cases isFile with
  | false => cases prepares
  | true =>
      obtain ⟨outputDirectory, output, prepares⟩ := bind_eq_ok_iff.mp prepares
      obtain ⟨views, found, prepares⟩ := bind_eq_ok_iff.mp prepares
      obtain ⟨dialect, known, prepares⟩ := bind_eq_ok_iff.mp prepares
      obtain ⟨palette, loaded, prepares⟩ := bind_eq_ok_iff.mp prepares
      obtain ⟨text, read, prepares⟩ := bind_eq_ok_iff.mp prepares
      obtain ⟨path, probed⟩ := findOutputDirectory_eq_ok_iff.mp output
      obtain ⟨keys, all⟩ := findViews_eq_ok found
      cases prepares
      exact
        { source := rfl
          file := raise_eq_ok_iff.mp file
          text := raise_eq_ok_iff.mp read
          outputDirectory := path
          into := leadsInto_of_probe probed
          keys
          known := all
          dialect := known
          presentation := ⟨palette, tell_eq_ok_iff.mp loaded, rfl⟩ }

theorem Prepared.colors (prepared : Prepared environment workspace invocation preparation) :
    preparation.presentation.palette ≠ [] := by
  obtain ⟨palette, loaded, configured⟩ := prepared.presentation
  rw [configured]
  exact (isColor_of_loadPalette loaded).1

theorem Prepared.separator (prepared : Prepared environment workspace invocation preparation) :
    preparation.presentation.separator = loadLineSeparator environment := by
  obtain ⟨palette, _loaded, configured⟩ := prepared.presentation
  rw [configured, Presentation.configured]

/-- The views are called by names of files. -/
theorem Prepared.named (prepared : Prepared environment workspace invocation preparation)
    {view : View} (member : view ∈ preparation.views) : Named preparation view := by
  have suffixes : ∀ view ∈ View.all, '/' ∉ view.suffix.toList ∧ '\x00' ∉ view.suffix.toList ∧
      '-' ∈ view.suffix.toList := by
    decide
  obtain ⟨separator, null, hyphen⟩ := suffixes view (prepared.known view member)
  obtain ⟨content, probed⟩ := Workspace.probe_of_isFile prepared.file
  have noNull := (Workspace.probe_eq_some_iff.mp probed).1
  have ofName {character : Char} (stem : character ∈ preparation.source.stem.toList) :
      character ∈ preparation.source.name.toList := by
    rw [← Path.splitName_append preparation.source.name, String.toList_append]
    exact List.mem_append_left _ stem
  refine ⟨⟨?_, separator⟩, ⟨?_, null⟩, hyphen⟩
  · intro stem
    refine Path.Spelled.not_mem_name ?_ (ofName stem)
    rw [prepared.source]
    exact Path.spelled_parse _
  · intro stem
    have inName := ofName stem
    unfold Path.name at inName
    cases last : preparation.source.parts.getLast? with
    | none =>
        rw [last] at inName
        cases inName
    | some name =>
        rw [last] at inName
        have holds : Workspace.holdsNull preparation.source = true := by
          rw [Workspace.holdsNull, List.any_eq_true]
          exact ⟨name, List.mem_of_getLast? last, by simpa using inName⟩
        rw [holds] at noNull
        cases noNull

end

/-! ### From the listing to the views -/

/-- The correlation of a listing with the source, by the path given for it if there is one. -/
def Preparation.correlated (preparation : Preparation) (options : Options) (material : Material) :
    Except Failure Correlation :=
  correlate preparation.dialect preparation.presentation material.listing
    ((given? options.target).getD material.target) preparation.text preparation.source.name

/-- The end of a run: what came of correlating is told, and the views are saved. -/
def saveCorrelated (preparation : Preparation) (site : Site) (correlation : Correlation) :
    Step Unit :=
  (Step.print site (correlationLine correlation)).andThen fun site _ =>
    (saveAll preparation correlation site preparation.views).andThen fun site _ =>
      { site, lines := ["", summary preparation], result := .ok () }

/-- Beside what it tells, the end of a run only saves the views. -/
theorem saveCorrelated_eq (preparation : Preparation) (site : Site) (correlation : Correlation) :
    let saved := saveAll preparation correlation site preparation.views
    (saveCorrelated preparation site correlation).site = saved.site ∧
      (saveCorrelated preparation site correlation).result = saved.result := by
  intro saved
  unfold saveCorrelated
  rw [Step.andThen_site rfl, Step.andThen_result]
  cases done : saved.result with
  | error fault => exact Step.andThen_of_error done _
  | ok _ =>
      refine ⟨Step.andThen_site done _, ?_⟩
      refine (Step.andThen_result saved _).trans ?_
      rw [done]
      rfl

/-- A run behind its preparation has three parts. -/
theorem runPrepared_eq (site : Site) (preparation : Preparation) (options : Options)
    (limit : Option Limit) :
    runPrepared site preparation options limit =
      (findMaterial site preparation options limit).andThen fun site material =>
        (correlateMaterial site preparation options material).andThen
          (saveCorrelated preparation) :=
  rfl

/-- A run behind its preparation fails to find a listing, or to correlate it, or it saves the views
of the correlation. Only what finds a listing and what saves a view changes files. -/
theorem runPrepared_cases (site : Site) (preparation : Preparation) (options : Options)
    (limit : Option Limit) :
    let found := findMaterial site preparation options limit
    let step := runPrepared site preparation options limit
    (∃ fault, found.result = .error fault ∧ step.site = found.site ∧ step.result = .error fault) ∨
      (∃ material failure, found.result = .ok material ∧
        preparation.correlated options material = .error failure ∧
        step.site = found.site ∧ step.result = .error (Fault.ofFailure failure)) ∨
      ∃ material correlation, found.result = .ok material ∧
        preparation.correlated options material = .ok correlation ∧
        let saved := saveAll preparation correlation found.site preparation.views
        step.site = saved.site ∧ step.result = saved.result := by
  intro found step
  let next (site : Site) (material : Material) : Step Unit :=
    (correlateMaterial site preparation options material).andThen (saveCorrelated preparation)
  have parts : step = found.andThen next := runPrepared_eq site preparation options limit
  rw [parts]
  cases finds : found.result with
  | error fault =>
      obtain ⟨same, failed⟩ := Step.andThen_of_error finds next
      exact Or.inl ⟨fault, rfl, same, failed⟩
  | ok material =>
      right
      rw [Step.andThen_site finds, Step.andThen_result, finds]
      let correlates := correlateMaterial found.site preparation options material
      have outcome : correlates.result =
        (preparation.correlated options material).mapError Fault.ofFailure := rfl
      cases correlated : preparation.correlated options material with
      | error failure =>
          rw [correlated] at outcome
          obtain ⟨same, failed⟩ := Step.andThen_of_error outcome (saveCorrelated preparation)
          exact Or.inl ⟨material, failure, rfl, correlated, same, failed⟩
      | ok correlation =>
          rw [correlated] at outcome
          obtain ⟨same, ended⟩ := saveCorrelated_eq preparation correlates.site correlation
          refine Or.inr ⟨material, correlation, rfl, correlated, ?_, ?_⟩
          · exact (Step.andThen_site outcome _).trans same
          · refine (Step.andThen_result correlates _).trans ?_
            rw [outcome]
            exact ended

section

variable {site : Site} {preparation : Preparation} {options : Options} {limit : Option Limit}
  {material : Material} {correlation : Correlation}

theorem runPrepared_of_unfound {fault : Fault}
    (unfound : (findMaterial site preparation options limit).result = .error fault) :
    (runPrepared site preparation options limit).site =
        (findMaterial site preparation options limit).site ∧
      (runPrepared site preparation options limit).result = .error fault := by
  rw [runPrepared_eq]
  exact Step.andThen_of_error unfound _

theorem runPrepared_of_uncorrelated {failure : Failure}
    (finds : (findMaterial site preparation options limit).result = .ok material)
    (refused : preparation.correlated options material = .error failure) :
    (runPrepared site preparation options limit).site =
        (findMaterial site preparation options limit).site ∧
      (runPrepared site preparation options limit).result =
        .error (Fault.ofFailure failure) := by
  let found := findMaterial site preparation options limit
  have correlates : (correlateMaterial found.site preparation options material).result =
      (preparation.correlated options material).mapError Fault.ofFailure := rfl
  rw [refused] at correlates
  rw [runPrepared_eq, Step.andThen_site finds, Step.andThen_result, finds]
  exact Step.andThen_of_error correlates _

/-- A run that correlates only saves the views behind that. -/
theorem runPrepared_of_correlated
    (finds : (findMaterial site preparation options limit).result = .ok material)
    (correlates : preparation.correlated options material = .ok correlation) :
    let found := findMaterial site preparation options limit
    let saved := saveAll preparation correlation found.site preparation.views
    (runPrepared site preparation options limit).site = saved.site ∧
      (runPrepared site preparation options limit).result = saved.result := by
  rcases runPrepared_cases site preparation options limit with
    ⟨fault, failed, _rest⟩ | ⟨other, failure, findsToo, refused, _rest⟩ |
    ⟨other, another, findsToo, correlatesToo, ends⟩
  · rw [finds] at failed
    cases failed
  · rw [finds, Except.ok.injEq] at findsToo
    rw [← findsToo, correlates] at refused
    cases refused
  · rw [finds, Except.ok.injEq] at findsToo
    rw [← findsToo, correlates, Except.ok.injEq] at correlatesToo
    rw [correlatesToo]
    exact ends

/-- It ends at the first view whose name is too long. -/
theorem runPrepared_of_stops {reached : Site} {directory : Place} {earlier later : List View}
    {view : View} {failure : Failure}
    (reaches : (findMaterial site preparation options limit).site = reached)
    (finds : (findMaterial site preparation options limit).result = .ok material)
    (correlates : preparation.correlated options material = .ok correlation)
    (named : ∀ view ∈ preparation.views, Named preparation view)
    (parts : preparation.views = earlier ++ view :: later)
    (into : LeadsInto reached.workspace preparation.outputDirectory directory)
    (done : (saveAll preparation correlation reached earlier).result = .ok ())
    (stops : Stops preparation (saveAll preparation correlation reached earlier).site.workspace
      directory view failure) :
    (runPrepared site preparation options limit).site =
        (saveAll preparation correlation reached earlier).site ∧
      (runPrepared site preparation options limit).result = .error (.untold failure) := by
  obtain ⟨same, ends⟩ := runPrepared_of_correlated finds correlates
  rw [parts] at same ends named
  rw [reaches] at same ends
  obtain ⟨sameStop, fails⟩ := saveAll_of_stops named into done stops
  exact ⟨same.trans sameStop, ends.trans fails⟩

end

end ListingAtlas.CommandLine
