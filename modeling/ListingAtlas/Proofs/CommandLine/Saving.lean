import ListingAtlas.CommandLine.Run
import ListingAtlas.Proofs.Outcome
import ListingAtlas.Proofs.OutputName.Search

/-!
Saving. Views are saved one after another, each as a file of its own that was not there before, and
nothing that was there changes. Only a name that is too long to be asked for stops this, and then
the views before it are already saved.
-/

namespace ListingAtlas.CommandLine

open Compile (Site)

/-! ### Parts of a run -/

theorem Step.andThen_site {First Second : Type} {step : Step First} {result : First}
    (succeeds : step.result = .ok result) (next : Site → First → Step Second) :
    (step.andThen next).site = (next step.site result).site := by
  simp only [Step.andThen, succeeds]

theorem Step.andThen_result {First Second : Type} (step : Step First)
    (next : Site → First → Step Second) :
    (step.andThen next).result =
      step.result.bind fun result => (next step.site result).result := by
  unfold Step.andThen
  cases step.result <;> rfl

theorem Step.andThen_of_error {First Second : Type} {step : Step First} {fault : Fault}
    (failed : step.result = .error fault) (next : Site → First → Step Second) :
    (step.andThen next).site = step.site ∧ (step.andThen next).result = .error fault := by
  simp only [Step.andThen, failed, and_self]

theorem Step.andThen_assoc {First Second Third : Type} (step : Step First)
    (next : Site → First → Step Second) (last : Site → Second → Step Third) :
    (step.andThen next).andThen last =
      step.andThen fun site result => (next site result).andThen last := by
  unfold Step.andThen
  cases step.result with
  | error fault => rfl
  | ok result =>
      simp only
      cases (next step.site result).result with
      | error fault => rfl
      | ok second => simp only [List.append_assoc]

/-! ### Endings -/

theorem ending_of_ok {step : Step Unit} (succeeds : step.result = .ok ()) :
    step.outcome.ending = .exited 0 := by
  simp only [Step.outcome, succeeds]

theorem ending_of_untold {step : Step Unit} {failure : Failure}
    (fails : step.result = .error (.untold failure)) : step.outcome.ending = .raised failure := by
  simp only [Step.outcome, fails]

theorem ending_of_error {step : Step Unit} {fault : Fault} (fails : step.result = .error fault) :
    step.outcome.ending ≠ .exited 0 := by
  cases fault with
  | told lines text => simp [Step.outcome, fails]
  | untold failure => simp [Step.outcome, fails]

/-! ### New files -/

/-- The files that views become, each under a name in a directory. -/
def savedFiles (directory : Place) (correlation : Correlation) (names : List String)
    (views : List View) : List (Place × Node) :=
  List.zipWith (fun name view =>
    (directory ++ [name], .file (Text.encodeUtf8 (view.content correlation)))) names views

/-- The views of a correlation have been saved in a directory: just their files are new, in their
order, and each is called by one of the names of its view, which nothing was called before. -/
structure Saved (directory : Place) (stem : String) (correlation : Correlation)
    (views : List View) (before after : Workspace) : Prop where
  workingDirectory : after.workingDirectory = before.workingDirectory
  files : ∃ names, after.nodes.items = before.nodes.items ++
      savedFiles directory correlation names views ∧
    List.Forall₂ (fun name view => ∃ tries,
      name = (OutputName.mk stem view.suffix).candidate tries) names views ∧
    names.Nodup ∧ ∀ name ∈ names, before.node? (directory ++ [name]) = none

section

variable {directory : Place} {stem : String} {correlation : Correlation} {views later : List View}
  {names : List String} {before between after : Workspace}

theorem keys_savedFiles (sameLength : names.length = views.length) :
    (savedFiles directory correlation names views).map Prod.fst =
      names.map fun name => directory ++ [name] := by
  unfold savedFiles
  induction names generalizing views with
  | nil => rfl
  | cons name names ih =>
      cases views with
      | nil => cases sameLength
      | cons view views =>
          rw [List.zipWith_cons_cons, List.map_cons, List.map_cons, ih (Nat.succ.inj sameLength)]

/-- As no place is twice in a workspace, files that are added are new. -/
theorem new_of_items (sameLength : names.length = views.length)
    (items : after.nodes.items = before.nodes.items ++
      savedFiles directory correlation names views) :
    names.Nodup ∧ ∀ name ∈ names, before.node? (directory ++ [name]) = none := by
  have distinct := after.nodes.distinct
  rw [items, List.map_append, keys_savedFiles sameLength, List.nodup_append] at distinct
  obtain ⟨_old, new, apart⟩ := distinct
  refine ⟨List.Nodup.of_map _ new, ?_⟩
  intro name member
  unfold Workspace.node?
  rw [if_neg (by simp)]
  apply Table.get?_eq_none
  intro known
  exact apart _ known _ (List.mem_map.mpr ⟨name, member, rfl⟩) rfl

theorem Saved.nothing (directory : Place) (stem : String) (correlation : Correlation)
    (workspace : Workspace) : Saved directory stem correlation [] workspace workspace :=
  ⟨rfl, [], (List.append_nil _).symm, .nil, List.nodup_nil, by simp⟩

theorem Saved.append (first : Saved directory stem correlation views before between)
    (second : Saved directory stem correlation later between after) :
    Saved directory stem correlation (views ++ later) before after := by
  obtain ⟨names, items, called, _new⟩ := first.files
  obtain ⟨more, moreItems, moreCalled, _moreNew⟩ := second.files
  have calledAll := List.rel_append called moreCalled
  have all : after.nodes.items = before.nodes.items ++
      savedFiles directory correlation (names ++ more) (views ++ later) := by
    rw [moreItems, items, List.append_assoc, savedFiles, savedFiles, savedFiles,
      List.zipWith_append called.length_eq]
  exact ⟨second.workingDirectory.trans first.workingDirectory, names ++ more, all, calledAll,
    new_of_items calledAll.length_eq all⟩

/-- What was there still is. -/
theorem Saved.node? (saved : Saved directory stem correlation views before after) {place : Place}
    {node : Node} (here : before.node? place = some node) : after.node? place = some node := by
  obtain ⟨names, items, _called, _new⟩ := saved.files
  unfold Workspace.node? at here ⊢
  split
  · rename_i root
    rw [if_pos root] at here
    exact here
  · rename_i below
    rw [if_neg below, Table.get?_eq_some_iff] at here
    rw [Table.get?_eq_some_iff, items]
    exact List.mem_append_left _ here

theorem mem_savedFiles {calls : String → View → Prop} (called : List.Forall₂ calls names views)
    {item : Place × Node} (member : item ∈ savedFiles directory correlation names views) :
    ∃ name view, view ∈ views ∧ calls name view ∧
      item = (directory ++ [name], .file (Text.encodeUtf8 (view.content correlation))) := by
  unfold savedFiles at member
  induction called with
  | nil => cases member
  | cons here _rest ih =>
      rw [List.zipWith_cons_cons] at member
      rcases List.mem_cons.mp member with rfl | later
      · exact ⟨_, _, List.mem_cons_self, here, rfl⟩
      · obtain ⟨name, view, among, calls, same⟩ := ih later
        exact ⟨name, view, List.mem_cons_of_mem _ among, calls, same⟩

/-- What is there was there before, or is the file of a view. -/
theorem Saved.node?_cases (saved : Saved directory stem correlation views before after)
    {place : Place} {node : Node} (here : after.node? place = some node) :
    before.node? place = some node ∨
      ∃ view ∈ views, node = .file (Text.encodeUtf8 (view.content correlation)) ∧
        ∃ tries, place = directory ++ [(OutputName.mk stem view.suffix).candidate tries] := by
  obtain ⟨names, items, called, _new⟩ := saved.files
  unfold Workspace.node? at here ⊢
  split
  · rename_i root
    rw [if_pos root] at here
    exact Or.inl here
  · rename_i below
    rw [if_neg below, Table.get?_eq_some_iff, items, List.mem_append] at here
    rw [Table.get?_eq_some_iff]
    refine here.imp id fun new => ?_
    obtain ⟨name, view, among, ⟨tries, rfl⟩, same⟩ := mem_savedFiles called new
    rw [Prod.mk.injEq] at same
    exact ⟨view, among, same.2, tries, same.1⟩

theorem Saved.sameDirectories (saved : Saved directory stem correlation views before after) :
    Workspace.SameDirectories before after where
  workingDirectory := saved.workingDirectory
  directories := by
    refine fun place => ⟨fun here => ?_, saved.node?⟩
    rcases saved.node?_cases here with earlier | ⟨view, _among, file, _place⟩
    · exact earlier
    · cases file

theorem Saved.keeps (saved : Saved directory stem correlation views before after) :
    Workspace.Keeps before after :=
  ⟨saved.sameDirectories, fun _place _node => saved.node?⟩

/-- Whatever a path led to, it still leads to. -/
theorem Saved.lookUp (saved : Saved directory stem correlation views before after) {path : Path}
    {node : Node} (found : before.lookUp path = .ok node) : after.lookUp path = .ok node :=
  saved.keeps.lookUp found

/-- And where nothing was, nothing is that is called otherwise than the files of the views. -/
theorem Saved.lookUp_missing (saved : Saved directory stem correlation views before after)
    {path : Path} {place : Place} (leads : before.locate path = .ok place)
    (nothing : before.node? place = none)
    (other : ∀ view ∈ views, ∀ tries,
      place.getLast? ≠ some ((OutputName.mk stem view.suffix).candidate tries)) :
    after.lookUp path = .error .missing := by
  have still : after.node? place = none := by
    cases here : after.node? place with
    | none => rfl
    | some node =>
        rcases saved.node?_cases here with earlier | ⟨view, among, _file, tries, rfl⟩
        · rw [nothing] at earlier
          cases earlier
        · exact absurd List.getLast?_concat (other view among tries)
  exact Workspace.lookUp_eq_missing (Workspace.locate_of_same saved.sameDirectories leads) still

theorem exists_savedFile {calls : String → View → Prop} {view : View}
    (called : List.Forall₂ calls names views) (member : view ∈ views) :
    ∃ name ∈ names, (directory ++ [name],
      Node.file (Text.encodeUtf8 (view.content correlation))) ∈
        savedFiles directory correlation names views := by
  induction called with
  | nil => cases member
  | cons _here _rest ih =>
      unfold savedFiles
      rw [List.zipWith_cons_cons]
      rcases List.mem_cons.mp member with rfl | later
      · exact ⟨_, List.mem_cons_self, List.mem_cons_self⟩
      · obtain ⟨name, among, file⟩ := ih later
        exact ⟨name, List.mem_cons_of_mem _ among, List.mem_cons_of_mem _ file⟩

/-- Every view has become a file that is new. -/
theorem Saved.exists_file (saved : Saved directory stem correlation views before after)
    {view : View} (member : view ∈ views) :
    ∃ name, before.node? (directory ++ [name]) = none ∧
      after.node? (directory ++ [name]) =
        some (.file (Text.encodeUtf8 (view.content correlation))) := by
  obtain ⟨names, items, called, _distinct, new⟩ := saved.files
  obtain ⟨name, among, file⟩ := exists_savedFile called member
  refine ⟨name, new name among, ?_⟩
  unfold Workspace.node?
  rw [if_neg (by simp), Table.get?_eq_some_iff, items]
  exact List.mem_append_right _ file

/-- Where a file is new, just it is saved. -/
theorem saved_setFile {name : String} {view : View} {tries : Nat}
    (nothing : before.node? (directory ++ [name]) = none)
    (called : name = (OutputName.mk stem view.suffix).candidate tries) :
    Saved directory stem correlation [view] before
      (before.setFile (directory ++ [name]) (Text.encodeUtf8 (view.content correlation))) := by
  have missing : directory ++ [name] ∉ before.nodes.keys := by
    rw [← Table.get?_isSome_iff]
    unfold Workspace.node? at nothing
    rw [if_neg (by simp)] at nothing
    rw [nothing]
    exact Bool.false_ne_true
  let content := Text.encodeUtf8 (view.content correlation)
  have items : (before.setFile (directory ++ [name]) content).nodes.items =
      before.nodes.items ++ savedFiles directory correlation [name] [view] :=
    Table.items_insert_of_not_mem missing (.file content)
  exact ⟨rfl, [name], items, .cons ⟨tries, called⟩ .nil, new_of_items rfl items⟩

end

/-! ### One view -/

/-- A path leads to a directory at a place. -/
structure LeadsInto (workspace : Workspace) (path : Path) (directory : Place) : Prop where
  noNull : Workspace.holdsNull path = false
  leads : workspace.locate path = .ok directory
  here : workspace.node? directory = some .directory

theorem LeadsInto.of_same {one other : Workspace} {path : Path} {directory : Place}
    (into : LeadsInto one path directory) (same : Workspace.SameDirectories one other) :
    LeadsInto other path directory :=
  ⟨into.noNull, Workspace.locate_of_same same into.leads,
    (same.directories directory).mpr into.here⟩

theorem LeadsInto.setFile {workspace : Workspace} {path : Path} {directory place : Place}
    (into : LeadsInto workspace path directory) (nothing : workspace.node? place = none)
    (content : Text.Bytes) : LeadsInto (workspace.setFile place content) path directory := by
  have notDirectory : workspace.node? place ≠ some .directory := by
    rw [nothing]
    exact fun same => by cases same
  exact into.of_same (Workspace.sameDirectories_setFile notDirectory content)

/-- The name under which a view would be saved is too long to be asked for, which is a failure. -/
def Stops (preparation : Preparation) (workspace : Workspace) (directory : Place) (view : View)
    (failure : Failure) : Prop :=
  let name : OutputName := { stem := preparation.source.stem, suffix := view.suffix }
  ∃ tries, name.Ends workspace preparation.outputDirectory directory tries ∧
    ¬ Workspace.Fits preparation.outputDirectory (name.candidate tries) ∧
      failure = .unusablePath .nameTooLong
        (preparation.outputDirectory.child (name.candidate tries)).toString

/-- The view is called by names of files. -/
def Named (preparation : Preparation) (view : View) : Prop :=
  (OutputName.mk preparation.source.stem view.suffix).NamesFiles

section

variable {preparation : Preparation} {correlation : Correlation} {view : View}
  {views later : List View} {workspace : Workspace} {site : Site} {directory : Place}

/-- A view is saved as a new file, unless its name stops it. -/
theorem saveView_cases (correlation : Correlation) (named : Named preparation view)
    (into : LeadsInto workspace preparation.outputDirectory directory) :
    (∃ written path, saveView workspace preparation correlation view = .ok (written, path) ∧
        Saved directory preparation.source.stem correlation [view] workspace written ∧
        LeadsInto written preparation.outputDirectory directory ∧
        ∀ failure, ¬ Stops preparation workspace directory view failure) ∨
      ∃ failure, saveView workspace preparation correlation view = .error failure ∧
        Stops preparation workspace directory view failure := by
  obtain ⟨tries, ends, chosen⟩ :=
    OutputName.choose_ends named into.noNull into.leads into.here
  let name := (OutputName.mk preparation.source.stem view.suffix).candidate tries
  by_cases fits : Workspace.Fits preparation.outputDirectory name
  · left
    rw [if_pos fits] at chosen
    let content := Text.encodeUtf8 (view.content correlation)
    have free := ends.free fits
    have wrote := Workspace.writeBytes_child into.noNull (named.not_null tries)
      (named.downward tries) into.leads into.here fits free content
    refine ⟨_, preparation.outputDirectory.child name, ?_, saved_setFile free rfl,
      into.setFile free content, ?_⟩
    · unfold saveView
      rw [chosen]
      simp only [bind, Except.bind]
      rw [wrote]
      rfl
    · rintro failure ⟨others, endsToo, long, _same⟩
      rw [← ends.unique endsToo] at long
      exact long fits
  · right
    rw [if_neg fits] at chosen
    refine ⟨_, ?_, tries, ends, fits, rfl⟩
    unfold saveView
    rw [chosen]
    rfl

/-- A first name that is too long is where the search ends. -/
theorem stops_of_long
    (long : ¬ Workspace.Fits preparation.outputDirectory (preparation.source.stem ++ view.suffix)) :
    Stops preparation workspace directory view (.unusablePath .nameTooLong
      (preparation.outputDirectory.child (preparation.source.stem ++ view.suffix)).toString) := by
  refine ⟨0, ⟨?_, fun fits => absurd fits long⟩, long, rfl⟩
  exact fun earlier before => absurd before (Nat.not_lt_zero earlier)

/-- And so is one that is free, but there nothing stops. -/
theorem not_stops_of_free {failure : Failure}
    (fits : Workspace.Fits preparation.outputDirectory (preparation.source.stem ++ view.suffix))
    (free : workspace.node? (directory ++ [preparation.source.stem ++ view.suffix]) = none) :
    ¬ Stops preparation workspace directory view failure := by
  rintro ⟨tries, ends, long, _same⟩
  let name : OutputName := { stem := preparation.source.stem, suffix := view.suffix }
  have first : name.Ends workspace preparation.outputDirectory directory 0 := by
    refine ⟨?_, fun _fits => free⟩
    exact fun earlier before => absurd before (Nat.not_lt_zero earlier)
  rw [ends.unique first] at long
  exact long fits

theorem Stops.unique {failure other : Failure}
    (stops : Stops preparation workspace directory view failure)
    (stopsToo : Stops preparation workspace directory view other) : failure = other := by
  obtain ⟨tries, ends, _long, rfl⟩ := stops
  obtain ⟨others, endsToo, _longToo, rfl⟩ := stopsToo
  rw [ends.unique endsToo]

/-! ### All views -/

theorem saveStep_cases (correlation : Correlation) (named : Named preparation view)
    (into : LeadsInto site.workspace preparation.outputDirectory directory) :
    let step := saveStep preparation correlation site view
    (∃ written, step.site = { site with workspace := written } ∧ step.result = .ok () ∧
        Saved directory preparation.source.stem correlation [view] site.workspace written ∧
        LeadsInto written preparation.outputDirectory directory ∧
        ∀ failure, ¬ Stops preparation site.workspace directory view failure) ∨
      ∃ failure, step.site = site ∧ step.result = .error (.untold failure) ∧
        Stops preparation site.workspace directory view failure := by
  intro step
  rcases saveView_cases correlation named into with
    ⟨written, path, saved, new, still, passes⟩ | ⟨failure, refused, stops⟩
  · refine Or.inl ⟨written, ?_, ?_, new, still, passes⟩
    · simp only [step, saveStep, Step.andThen, Step.print, saved]
    · simp only [step, saveStep, Step.andThen, Step.print, saved]
  · refine Or.inr ⟨failure, ?_, ?_, stops⟩
    · simp only [step, saveStep, Step.andThen, Step.print, refused, Step.failed]
    · simp only [step, saveStep, Step.andThen, Step.print, refused, Step.failed]

theorem saveAll_cons (correlation : Correlation) (site : Site) (view : View) (views : List View) :
    saveAll preparation correlation site (view :: views) =
      (saveStep preparation correlation site view).andThen fun site _ =>
        saveAll preparation correlation site views := rfl

/-- Views are saved until the name of one of them stops this, if any does. -/
theorem saveAll_cases (correlation : Correlation) (named : ∀ view ∈ views, Named preparation view)
    (into : LeadsInto site.workspace preparation.outputDirectory directory) :
    let step := saveAll preparation correlation site views
    ∃ written, step.site = { site with workspace := written } ∧
      LeadsInto written preparation.outputDirectory directory ∧
      (step.result = .ok () ∧
          Saved directory preparation.source.stem correlation views site.workspace written ∨
        ∃ earlier view later failure, views = earlier ++ view :: later ∧
          (saveAll preparation correlation site earlier).result = .ok () ∧
          (saveAll preparation correlation site earlier).site.workspace = written ∧
          Saved directory preparation.source.stem correlation earlier site.workspace written ∧
          Stops preparation written directory view failure ∧
          step.result = .error (.untold failure)) := by
  intro step
  induction views generalizing site with
  | nil => exact ⟨site.workspace, rfl, into, Or.inl ⟨rfl, .nothing _ _ _ _⟩⟩
  | cons view views ih =>
      have others : ∀ other ∈ views, Named preparation other :=
        fun other later => named other (List.mem_cons_of_mem _ later)
      have result : step.result = _ := Step.andThen_result _ _
      rcases saveStep_cases correlation (named view List.mem_cons_self) into with
        ⟨written, same, done, saved, still, _passes⟩ | ⟨failure, same, failed, stops⟩
      · have first (more : List View) :
            (saveAll preparation correlation site (view :: more)).site =
                (saveAll preparation correlation { site with workspace := written } more).site ∧
              (saveAll preparation correlation site (view :: more)).result =
                (saveAll preparation correlation { site with workspace := written } more).result := by
          rw [saveAll_cons, Step.andThen_site done, Step.andThen_result, done, same]
          exact ⟨rfl, rfl⟩
        let next : Site := { site with workspace := written }
        have intoNext : LeadsInto next.workspace preparation.outputDirectory directory := still
        obtain ⟨last, sameRest, stillThere, ended⟩ := ih others intoNext
        refine ⟨last, (first views).1.trans sameRest, stillThere, ?_⟩
        rcases ended with ⟨all, more⟩ |
          ⟨earlier, stopped, later, failure, parts, succeeds, reached, more, stops, ends⟩
        · exact Or.inl ⟨(first views).2.trans all, saved.append more⟩
        · refine Or.inr ⟨view :: earlier, stopped, later, failure, ?_,
            (first earlier).2.trans succeeds, ?_, saved.append more, stops,
            (first views).2.trans ends⟩
          · rw [parts, List.cons_append]
          · rw [(first earlier).1]
            exact reached
      · refine ⟨site.workspace, ?_, into, Or.inr ⟨[], view, views, failure, rfl, rfl, rfl,
          .nothing _ _ _ _, stops, ?_⟩⟩
        · simp only [step, saveAll, Step.andThen, failed, same]
        · rw [result, failed]
          rfl

theorem saveAll_append (correlation : Correlation) (site : Site) (earlier later : List View) :
    saveAll preparation correlation site (earlier ++ later) =
      (saveAll preparation correlation site earlier).andThen fun site _ =>
        saveAll preparation correlation site later := by
  induction earlier generalizing site with
  | nil => rfl
  | cons view earlier ih =>
      rw [List.cons_append, saveAll_cons, saveAll_cons, Step.andThen_assoc]
      congr 1
      funext site _done
      exact ih site

/-- Behind views that are saved, the one whose name is too long is where saving ends. -/
theorem saveAll_of_stops {earlier : List View} {failure : Failure}
    (named : ∀ other ∈ earlier ++ view :: later, Named preparation other)
    (into : LeadsInto site.workspace preparation.outputDirectory directory)
    (done : (saveAll preparation correlation site earlier).result = .ok ())
    (stops : Stops preparation (saveAll preparation correlation site earlier).site.workspace
      directory view failure) :
    let step := saveAll preparation correlation site (earlier ++ view :: later)
    step.site = (saveAll preparation correlation site earlier).site ∧
      step.result = .error (.untold failure) := by
  intro step
  obtain ⟨written, reached, still, _ended⟩ := saveAll_cases correlation
    (fun other member => named other (List.mem_append_left _ member)) into
  have intoReached : LeadsInto (saveAll preparation correlation site earlier).site.workspace
      preparation.outputDirectory directory := by
    rw [reached]
    exact still
  have parts : step = _ := saveAll_append correlation site earlier (view :: later)
  rw [parts, Step.andThen_site done, Step.andThen_result, done]
  rcases saveStep_cases correlation
      (named view (List.mem_append_right _ List.mem_cons_self)) intoReached with
    ⟨_new, _same, _done, _saved, _still, passes⟩ | ⟨other, same, failed, stopsToo⟩
  · exact absurd stops (passes failure)
  · obtain ⟨sameAgain, failedAgain⟩ := Step.andThen_of_error failed fun site _done =>
      saveAll preparation correlation site later
    rw [stops.unique stopsToo]
    exact ⟨sameAgain.trans same, failedAgain⟩

/-- Not all views are saved if the first name of one of them is too long. -/
theorem saveAll_of_long (correlation : Correlation) (named : ∀ other ∈ views, Named preparation other)
    (into : LeadsInto site.workspace preparation.outputDirectory directory)
    (member : view ∈ views)
    (long : ¬ Workspace.Fits preparation.outputDirectory (preparation.source.stem ++ view.suffix)) :
    ∃ failure, (saveAll preparation correlation site views).result = .error (.untold failure) := by
  obtain ⟨_written, _reached, _still, ended⟩ := saveAll_cases correlation named into
  rcases ended with ⟨all, _saved⟩ |
    ⟨_earlier, _view, _later, failure, _parts, _done, _same, _some, _stops, failed⟩
  · obtain ⟨earlier, later, rfl⟩ := List.append_of_mem member
    have first := all
    rw [saveAll_append, Step.andThen_result] at first
    obtain ⟨_unit, done, _rest⟩ := bind_eq_ok_iff.mp first
    have failed := (saveAll_of_stops named into done (stops_of_long long)).2
    rw [all] at failed
    cases failed
  · exact ⟨failure, failed⟩

/-- A single view is saved where its first name is free. -/
theorem saveAll_of_free (correlation : Correlation) (named : Named preparation view)
    (into : LeadsInto site.workspace preparation.outputDirectory directory)
    (fits : Workspace.Fits preparation.outputDirectory (preparation.source.stem ++ view.suffix))
    (free : site.workspace.node? (directory ++ [preparation.source.stem ++ view.suffix]) = none) :
    let step := saveAll preparation correlation site [view]
    step.result = .ok () ∧ Saved directory preparation.source.stem correlation [view]
      site.workspace step.site.workspace := by
  intro step
  have parts : step = _ := saveAll_cons correlation site view []
  rcases saveStep_cases correlation named into with
    ⟨written, reached, done, saved, _still, _passes⟩ | ⟨failure, _same, _failed, stops⟩
  · rw [parts, Step.andThen_site done, Step.andThen_result, done, reached]
    exact ⟨rfl, saved⟩
  · exact absurd stops (not_stops_of_free fits free)

end

end ListingAtlas.CommandLine
