import ListingAtlas.Compile.Workshop
import ListingAtlas.Proofs.Compile.Copy

/-!
What the listings of generations that share their files hold. The deeds of a run tell all that it
does to the files, so that a listing that is read is what the last deed at its place has left.
-/

namespace ListingAtlas

open Text (Bytes)

/-- What a listing that could be read was read from. -/
theorem Workspace.readListing_ok {workspace : Workspace} {path : Path} {text : String}
    (read : workspace.readListing path = .ok text) :
    ∃ place content, workspace.locate path = .ok place ∧
      workspace.node? place = some (.file content) ∧ text = Workspace.textOf content := by
  unfold readListing at read
  split at read
  · cases read
  · unfold readBytes lookUp at read
    cases leads : workspace.locate path with
    | error problem =>
        rw [leads] at read
        cases read
    | ok place =>
        rw [leads] at read
        cases here : workspace.node? place with
        | none =>
            simp only [here] at read
            cases read
        | some node =>
            simp only [here] at read
            cases node with
            | directory => cases read
            | file content => exact ⟨place, content, rfl, here, (Except.ok.inj read).symm⟩

/-- Where no file is, there is no listing to read. -/
theorem Workspace.readListing_of_no_file {workspace : Workspace} {path : Path}
    (noNull : Workspace.holdsNull path = false)
    (noFile : ∀ place, workspace.locate path = .ok place →
      ∀ content, workspace.node? place ≠ some (.file content)) :
    ∃ reason, workspace.readListing path = .error (.unreadableListing path.toString reason) := by
  rw [readListing, noNull, if_neg (by simp)]
  cases read : workspace.readBytes path with
  | error problem => exact ⟨problem.reason, rfl⟩
  | ok content =>
      exfalso
      unfold readBytes lookUp at read
      cases leads : workspace.locate path with
      | error problem =>
          rw [leads] at read
          cases read
      | ok place =>
          have nothing := noFile place leads
          rw [leads] at read
          cases here : workspace.node? place with
          | none =>
              simp only [here] at read
              cases read
          | some node =>
              simp only [here] at read
              cases node with
              | directory => cases read
              | file held => exact nothing held here

namespace Compile

open Workspace (SameDirectories)

variable {workspace one other : Workspace} {place : Place}

/-! ### Deeds -/

namespace Deed

theorem perform_same (workspace : Workspace) (deed : Deed) :
    SameDirectories workspace (deed.perform workspace) := by
  unfold perform
  split
  · exact Workspace.sameDirectories_removeFile workspace deed.path
  · split
    · rename_i wrote
      exact Workspace.sameDirectories_writeBytes wrote
    · exact .refl workspace

theorem performAll_same (workspace : Workspace) (deeds : List Deed) :
    SameDirectories workspace (deeds.foldl perform workspace) := by
  induction deeds generalizing workspace with
  | nil => exact .refl workspace
  | cons deed deeds ih => exact (deed.perform_same workspace).trans (ih (deed.perform workspace))

theorem reaches_of_same (same : SameDirectories one other) (deed : Deed) :
    deed.reaches other place = deed.reaches one place := by
  unfold reaches
  cases leads : one.locate deed.path with
  | ok target => rw [Workspace.locate_of_same same leads]
  | error problem =>
      cases leadsToo : other.locate deed.path with
      | error problem => rfl
      | ok target =>
          rw [Workspace.locate_of_same same.symm leadsToo] at leads
          cases leads

theorem reaches_iff (deed : Deed) :
    deed.reaches workspace place = true ↔
      workspace.locate deed.path = .ok place ∧
        (deed.content = none ∨ Workspace.holdsNull deed.path = false) := by
  unfold reaches
  cases workspace.locate deed.path with
  | error problem => simp
  | ok target => simp

/-- What a deed leaves at a place, and that it leaves everything else. -/
theorem node?_perform (notDirectory : workspace.node? place ≠ some .directory) (deed : Deed) :
    (deed.perform workspace).node? place =
      if deed.reaches workspace place then deed.content.map Node.file
      else workspace.node? place := by
  obtain ⟨author, path, content⟩ := deed
  cases content with
  | none =>
      change (workspace.removeFile path).node? place = _
      cases leads : workspace.locate path with
      | error problem =>
          rw [Workspace.removeFile, if_neg (by simp [reaches, leads]), leads]
      | ok target =>
          rw [Workspace.node?_removeFile notDirectory leads]
          simp only [reaches_iff, leads, Except.ok.injEq, true_or, and_true, Option.map_none]
  | some content =>
      unfold perform
      simp only [reaches_iff, reduceCtorEq, false_or]
      cases wrote : workspace.writeBytes path content with
      | ok written =>
          obtain ⟨target, leads, writtenAt⟩ := Workspace.exists_writtenAt wrote
          by_cases same : target = place
          · rw [if_pos ⟨by rw [leads, same], Workspace.holdsNull_of_writeBytes wrote⟩, ← same]
            exact writtenAt.here
          · rw [if_neg fun reached => same (Except.ok.inj (leads.symm.trans reached.1))]
            exact writtenAt.elsewhere place fun equal => same equal.symm
      | error failure =>
          rw [if_neg fun reached => notDirectory
            (Workspace.directory_of_writeBytes_error reached.2 reached.1 wrote)]

theorem node?_performAll (notDirectory : workspace.node? place ≠ some .directory)
    (deeds : List Deed) :
    (deeds.foldl perform workspace).node? place =
      match (deeds.filter (reaches workspace place)).getLast? with
      | some deed => deed.content.map Node.file
      | none => workspace.node? place := by
  induction deeds generalizing workspace with
  | nil => rfl
  | cons deed deeds ih =>
      have same := deed.perform_same workspace
      have still : (deed.perform workspace).node? place ≠ some .directory :=
        fun directory => notDirectory ((same.directories place).mp directory)
      have alike : reaches (deed.perform workspace) place = reaches workspace place :=
        funext fun later => later.reaches_of_same same
      rw [List.foldl_cons, ih still, alike, node?_perform notDirectory]
      by_cases reached : deed.reaches workspace place = true
      · rw [List.filter_cons_of_pos reached, List.getLast?_cons, if_pos reached]
        cases (deeds.filter (reaches workspace place)).getLast? <;> rfl
      · rw [List.filter_cons_of_neg reached, if_neg reached]

end Deed

/-! ### What a generation does to the files -/

/-- A process that cannot leave its listing leaves the files as they are. -/
theorem Process.performAll_deeds (process : Process) (index : Nat) (site : Site) :
    (process.deeds index).foldl Deed.perform site.workspace =
      match site.finish process with
      | .ok finished => finished.workspace
      | .error _ => site.workspace := by
  unfold deeds Site.finish
  cases process.script.listing with
  | none => rfl
  | some listing =>
      cases listingPath? process.arguments with
      | none => rfl
      | some path =>
          simp only [List.foldl_cons, List.foldl_nil, Deed.perform]
          cases site.workspace.writeBytes (Path.parse path)
              (writtenListing process.arguments listing) with
          | ok workspace => rfl
          | error failure => cases site.host <;> rfl

/-- Writing the copy is a deed, whether it is complete or not. -/
theorem writeCopy_workspace {before after : Workspace} {copy : Path} {text : Text.EditorText}
    {outcome : Except Failure Unit} (copied : writeCopy before copy text = (after, outcome))
    (author : Author) :
    after = Deed.perform before
      { author, path := copy, content := some ((text.toString?.map Text.encodeUtf8).getD []) } := by
  unfold writeCopy at copied
  unfold Deed.perform
  cases wrote : before.writeBytes copy ((text.toString?.map Text.encodeUtf8).getD []) with
  | error failure =>
      simp only [wrote] at copied ⊢
      exact (Prod.mk.inj copied).1.symm
  | ok written =>
      simp only [wrote] at copied ⊢
      split at copied <;> exact (Prod.mk.inj copied).1.symm

theorem Request.launchOn_eq {request : Request} {program : String} {arguments : List String}
    (command : request.command = program :: arguments) (site : Site) (workspace : Workspace) :
    request.launchOn site = Site.launch { site with workspace } program
      (Command.listingArguments arguments (request.listingIn site.workspace).toString
        (request.copyIn site.workspace).toString) request.directory := by
  unfold launchOn argumentsIn
  rw [command]
  rfl

namespace Generation

theorem opening_workspace (site : Site) (request : Request) (index : Nat) :
    (begin site request).site.workspace =
      (openingDeeds site request index).foldl Deed.perform site.workspace := by
  unfold openingDeeds
  cases command : request.command with
  | nil =>
      simp only [begin, command]
      rfl
  | cons program arguments =>
      simp only [begin, command, Request.copyIn]
      cases copied : writeCopy site.workspace
          (SourceFile.temporaryCopy (site.workspace.absolute request.source)) request.text with
      | mk workspace outcome =>
          have written := writeCopy_workspace copied (.generation index)
          cases outcome with
          | error failure =>
              simp only [List.foldl_cons, List.foldl_nil]
              exact written
          | ok _ =>
              simp only [List.foldl_cons, ← written]
              rw [Request.launchOn_eq command site workspace]
              unfold Site.start
              simp only [Request.listingIn, Request.copyIn]
              cases Site.launch { site with workspace } program _ request.directory <;> rfl

theorem finish_workspace (generation : Generation) (process : Process) (index : Nat) :
    (generation.finish process).1.site.workspace =
      (process.deeds index).foldl Deed.perform generation.site.workspace := by
  rw [Process.performAll_deeds]
  unfold finish
  cases generation.site.finish process <;> rfl

theorem finish_paths (generation : Generation) (process : Process) :
    (generation.finish process).1.temporary = generation.temporary ∧
      (generation.finish process).1.listing = generation.listing := by
  unfold finish
  cases generation.site.finish process <;> exact ⟨rfl, rfl⟩

theorem hear_workspace (generation : Generation) (outcome : Except Failure String) (index : Nat) :
    (generation.hear outcome).site.workspace =
      (removal generation.temporary index).perform generation.site.workspace := by
  cases outcome <;> rfl

theorem hear_paths (generation : Generation) (outcome : Except Failure String) :
    (generation.hear outcome).temporary = generation.temporary ∧
      (generation.hear outcome).listing = generation.listing := by
  cases outcome <;> exact ⟨rfl, rfl⟩

theorem conclude_workspace (generation : Generation) (watch : Watch) (index : Nat) :
    (generation.conclude watch).site.workspace =
      (watch.process.deeds index ++ [removal generation.temporary index]).foldl Deed.perform
        generation.site.workspace := by
  unfold conclude
  rw [List.foldl_append, ← finish_workspace, hear_workspace _ _ index,
    (generation.finish_paths watch.process).1]
  rfl

theorem occur_workspace (generation : Generation) (index : Nat) (happening : Happening) :
    (generation.occur happening).site.workspace =
      (generation.deeds index happening).foldl Deed.perform generation.site.workspace := by
  cases happening with
  | elapsed =>
      cases stage : generation.stage with
      | starting process =>
          simp only [occur, elapse, deeds, stage]
          cases process.watch generation.limit <;> rfl
      | running watch =>
          simp only [occur, elapse, deeds, stage]
          cases watch.verdict with
          | expires failure => rfl
          | ends => exact generation.conclude_workspace watch index
      | reaping process failure =>
          simp only [occur, elapse, deeds, stage]
          cases failure <;> rfl
      | ended ending =>
          simp only [occur, elapse, deeds, stage]
          rfl
  | cancelled =>
      simp only [occur, cancel, deeds]
      cases generation.stage <;> rfl
  | writes path content =>
      simp only [occur, write, deeds]
      cases generation.stage with
      | ended ending => rfl
      | starting process | running watch | reaping process failure =>
          simp only [List.foldl_cons, List.foldl_nil, Deed.perform]
          cases generation.site.workspace.writeBytes path content <;> rfl

theorem occur_paths (generation : Generation) (happening : Happening) :
    (generation.occur happening).temporary = generation.temporary ∧
      (generation.occur happening).listing = generation.listing := by
  cases happening with
  | elapsed =>
      simp only [occur, elapse]
      cases generation.stage with
      | starting process =>
          simp only
          cases process.watch generation.limit <;> exact ⟨rfl, rfl⟩
      | running watch =>
          simp only
          cases watch.verdict with
          | expires failure => exact ⟨rfl, rfl⟩
          | ends =>
              simp only [conclude, hear_paths]
              exact generation.finish_paths watch.process
      | reaping process failure => cases failure <;> exact ⟨rfl, rfl⟩
      | ended ending => exact ⟨rfl, rfl⟩
  | cancelled =>
      simp only [occur, cancel]
      cases generation.stage <;> exact ⟨rfl, rfl⟩
  | writes path content =>
      simp only [occur, write]
      split <;> exact ⟨rfl, rfl⟩

theorem begin_paths (site : Site) (request : Request) :
    (begin site request).temporary =
        SourceFile.temporaryCopy (site.workspace.absolute request.source) ∧
      (begin site request).listing =
        SourceFile.listing (site.workspace.absolute request.source)
          (site.workspace.absolute request.buildDirectory) := by
  unfold begin
  cases request.command with
  | nil => exact ⟨rfl, rfl⟩
  | cons program arguments =>
      simp only
      split
      · exact ⟨rfl, rfl⟩
      · split <;> exact ⟨rfl, rfl⟩

/-- A compiler has ended as it should. -/
structure Succeeds (generation : Generation) : Prop where
  ended : ∃ watch, generation.stage = .running watch ∧ watch.verdict = .ends ∧
    watch.process.script.status = 0 ∧ ∃ site, generation.site.finish watch.process = .ok site

/-- Once the compiler has ended as it should, the listing is read, as it then is. -/
theorem Succeeds.elapse {generation : Generation} (succeeds : generation.Succeeds) :
    generation.elapse.stage = .ended (.ofOutcome
      ((generation.elapse.site.workspace.readListing generation.listing).map fun text =>
        { text, target := generation.temporary.toString, listing := generation.listing })) := by
  obtain ⟨watch, stage, verdict, status, site, finished⟩ := succeeds
  have outcome : (generation.finish watch.process).2 =
      .ok (Text.decodeUtf8 (watch.process.script.output.getD [])) := by
    simp only [finish, finished, Script.outcome, status, beq_self_eq_true, if_pos]
  obtain ⟨temporary, listing⟩ := generation.finish_paths watch.process
  simp only [Generation.elapse, stage, verdict, conclude, outcome]
  rw [← temporary, ← listing]
  rfl

theorem finish_eq_ok {generation : Generation} {process : Process} {output : String}
    (outcome : (generation.finish process).2 = .ok output) :
    process.script.status = 0 ∧ ∃ site, generation.site.finish process = .ok site := by
  unfold finish at outcome
  cases finished : generation.site.finish process with
  | error failure =>
      rw [finished] at outcome
      cases outcome
  | ok site =>
      simp only [finished, Script.outcome] at outcome
      split at outcome
      · rename_i status
        exact ⟨eq_of_beq status, site, rfl⟩
      · cases outcome

/-- Nothing else makes a generation return. -/
theorem succeeds_of_returned {generation : Generation} {happening : Happening}
    {generated : Generated} (waits : ∀ ending, generation.stage ≠ .ended ending)
    (returned : (generation.occur happening).stage = .ended (.returned generated)) :
    happening = .elapsed ∧ generation.Succeeds := by
  cases happening with
  | elapsed =>
      refine ⟨rfl, ?_⟩
      simp only [occur, Generation.elapse] at returned
      cases stage : generation.stage with
      | starting process =>
          simp only [stage] at returned
          cases watched : process.watch generation.limit with
          | error failure => simp [watched, leave] at returned
          | ok watch => simp [watched] at returned
      | running watch =>
          simp only [stage] at returned
          cases verdict : watch.verdict with
          | expires failure => simp [verdict, kill] at returned
          | ends =>
              simp only [verdict, conclude] at returned
              cases outcome : (generation.finish watch.process).2 with
              | error failure => simp [outcome, hear, leave] at returned
              | ok output =>
                  obtain ⟨status, finished⟩ := finish_eq_ok outcome
                  exact ⟨watch, stage, verdict, status, finished⟩
      | reaping process failure => cases failure <;> simp [stage, leave] at returned
      | ended ending => exact absurd stage (waits ending)
  | cancelled =>
      simp only [occur, cancel] at returned
      cases stage : generation.stage with
      | starting process => simp [stage, kill] at returned
      | running watch => simp [stage, kill] at returned
      | reaping process failure => simp [stage, leave] at returned
      | ended ending => exact absurd stage (waits ending)
  | writes path content =>
      simp only [occur, write] at returned
      split at returned
      · exact absurd returned (waits _)
      · exact absurd returned (waits _)
      · exact absurd returned (waits _)

end Generation

/-! ### What all of them do -/

namespace Workshop

open Generation

variable {workshop : Workshop} {generation : Generation} {index : Nat}

theorem step_workspace (workshop : Workshop) (step : Step) :
    (workshop.step step).site.workspace =
      (workshop.stepDeeds step).foldl Deed.perform workshop.site.workspace := by
  cases step with
  | begins request => exact opening_workspace workshop.site request workshop.generations.length
  | happens index happening =>
      simp only [Workshop.step, stepDeeds]
      cases found : workshop.generation? index with
      | none => rfl
      | some generation =>
          have here : generation.site = workshop.site := by
            obtain ⟨known, _member, same⟩ := Option.map_eq_some_iff.mp found
            rw [← same]
          simp only [← here]
          exact generation.occur_workspace index happening
  | strays path content => rfl

theorem after_workspace (workshop : Workshop) (steps : List Step) :
    (workshop.after steps).site.workspace =
      (workshop.deeds steps).foldl Deed.perform workshop.site.workspace := by
  induction steps generalizing workshop with
  | nil => rfl
  | cons step steps ih =>
      change ((workshop.step step).after steps).site.workspace = _
      rw [ih, step_workspace, deeds, List.foldl_append]

theorem after_same (workshop : Workshop) (steps : List Step) :
    SameDirectories workshop.site.workspace (workshop.after steps).site.workspace := by
  rw [after_workspace]
  exact Deed.performAll_same workshop.site.workspace (workshop.deeds steps)

/-- At every place there is what the last deed at it has left. -/
theorem after_node? (workshop : Workshop) (steps : List Step) {place : Place}
    (notDirectory : workshop.site.workspace.node? place ≠ some .directory) :
    (workshop.after steps).site.workspace.node? place = workshop.left steps place := by
  rw [after_workspace]
  exact Deed.node?_performAll notDirectory (workshop.deeds steps)

/-! ### One among others -/

theorem generation?_begins (workshop : Workshop) (request : Request) :
    (workshop.step (.begins request)).generation? workshop.generations.length =
      some (Generation.begin workshop.site request) := by
  simp only [generation?, Workshop.step, List.getElem?_concat_length, Option.map_some]

theorem generation?_happens (found : workshop.generation? index = some generation)
    (happening : Happening) :
    (workshop.step (.happens index happening)).site = (generation.occur happening).site ∧
      (workshop.step (.happens index happening)).generation? index =
        some (generation.occur happening) := by
  obtain ⟨known, member, _same⟩ := Option.map_eq_some_iff.mp found
  have within : index < workshop.generations.length := (List.getElem?_eq_some_iff.mp member).1
  simp only [Workshop.step, found]
  simp only [generation?, List.getElem?_set_self within, Option.map_some, and_self]

/-- A generation goes on in its own steps, and else only finds the site as others leave it. -/
theorem generation?_step (found : workshop.generation? index = some generation) (step : Step) :
    (∃ happening, step = .happens index happening ∧
      (workshop.step step).generation? index = some (generation.occur happening)) ∨
    (workshop.step step).generation? index =
      some { generation with site := (workshop.step step).site } := by
  obtain ⟨known, member, same⟩ := Option.map_eq_some_iff.mp found
  have within : index < workshop.generations.length := (List.getElem?_eq_some_iff.mp member).1
  cases step with
  | begins request =>
      right
      simp only [generation?, Workshop.step, List.getElem?_append_left within, member,
        Option.map_some, ← same]
  | happens other happening =>
      by_cases own : other = index
      · left
        rw [own]
        exact ⟨happening, rfl, (generation?_happens found happening).2⟩
      · right
        simp only [Workshop.step]
        cases workshop.generation? other with
        | none => rw [found, ← same]
        | some others =>
            simp only [generation?, List.getElem?_set_ne own, member, Option.map_some, ← same]
  | strays path content =>
      right
      simp only [generation?, Workshop.step, member, Option.map_some, ← same]

/-- Its paths stay, whatever happens. -/
theorem generation?_after (found : workshop.generation? index = some generation)
    (steps : List Step) :
    ∃ later, (workshop.after steps).generation? index = some later ∧
      later.temporary = generation.temporary ∧ later.listing = generation.listing := by
  induction steps generalizing workshop generation with
  | nil => exact ⟨generation, found, rfl, rfl⟩
  | cons step steps ih =>
      rcases generation?_step found step with ⟨happening, _own, moved⟩ | still
      · obtain ⟨later, known, temporary, listing⟩ := ih moved
        have paths := generation.occur_paths happening
        exact ⟨later, known, temporary.trans paths.1, listing.trans paths.2⟩
      · have stays := ih still
        exact stays

theorem stage?_of_generation? (found : workshop.generation? index = some generation) :
    workshop.stage? index = some generation.stage := by
  rw [stage?, found]
  rfl

/-- A generation that returns has its compiler end in that step as it should. -/
theorem succeeds_of_returned (found : workshop.generation? index = some generation)
    (waits : ∀ ending, generation.stage ≠ .ended ending) {step : Step} {generated : Generated}
    (returned : (workshop.step step).stage? index = some (.ended (.returned generated))) :
    step = .happens index .elapsed ∧ generation.Succeeds := by
  rcases generation?_step found step with ⟨happening, rfl, moved⟩ | still
  · rw [stage?_of_generation? moved, Option.some.injEq] at returned
    obtain ⟨rfl, succeeds⟩ := Generation.succeeds_of_returned waits returned
    exact ⟨rfl, succeeds⟩
  · rw [stage?_of_generation? still, Option.some.injEq] at returned
    exact absurd returned (waits _)

/-- It then reads its listing as the step leaves it. -/
theorem stage?_of_succeeds (found : workshop.generation? index = some generation)
    (succeeds : generation.Succeeds) :
    (workshop.step (.happens index .elapsed)).stage? index = some (.ended (.ofOutcome
      (((workshop.step (.happens index .elapsed)).site.workspace.readListing
        generation.listing).map fun text =>
          { text, target := generation.temporary.toString, listing := generation.listing }))) := by
  obtain ⟨site, moved⟩ := generation?_happens found .elapsed
  rw [stage?_of_generation? moved, site]
  exact congrArg some succeeds.elapse

theorem path_of_opening_deed {site : Site} {request : Request} {author : Nat} {deed : Deed}
    (member : deed ∈ openingDeeds site request author) :
    deed.author = .generation author ∧
      deed.path = SourceFile.temporaryCopy (site.workspace.absolute request.source) := by
  unfold openingDeeds at member
  split at member
  · cases member
  · simp only [List.mem_cons] at member
    rcases member with rfl | later
    · exact ⟨rfl, rfl⟩
    · split at later
      · rw [List.mem_singleton] at later
        rw [later]
        exact ⟨rfl, rfl⟩
      · cases later

theorem author_of_deed {author : Nat} {happening : Happening} {deed : Deed}
    (member : deed ∈ generation.deeds author happening) :
    deed = removal generation.temporary author ∨ deed.author = .compiler author := by
  cases happening with
  | elapsed =>
      simp only [Generation.deeds] at member
      cases stage : generation.stage with
      | starting process =>
          simp only [stage] at member
          split at member
          · exact Or.inl (List.mem_singleton.mp member)
          · cases member
      | running watch =>
          simp only [stage] at member
          split at member
          · cases member
          · rcases List.mem_append.mp member with own | last
            · right
              unfold Process.deeds at own
              split at own
              · rw [List.mem_singleton.mp own]
              · cases own
            · exact Or.inl (List.mem_singleton.mp last)
      | reaping process failure =>
          simp only [stage] at member
          exact Or.inl (List.mem_singleton.mp member)
      | ended ending =>
          simp only [stage] at member
          cases member
  | cancelled =>
      simp only [Generation.deeds] at member
      split at member
      · exact Or.inl (List.mem_singleton.mp member)
      · cases member
  | writes path content =>
      simp only [Generation.deeds] at member
      split at member
      · cases member
      · right
        rw [List.mem_singleton.mp member]

/-- A generation itself touches nothing but its copy. -/
theorem path_of_own_deed (found : workshop.generation? index = some generation)
    {steps : List Step} {deed : Deed} (member : deed ∈ workshop.deeds steps)
    (own : deed.author = .generation index) : deed.path = generation.temporary := by
  induction steps generalizing workshop generation with
  | nil => cases member
  | cons step steps ih =>
      rcases List.mem_append.mp member with now | later
      · cases step with
        | begins request =>
            obtain ⟨author, _path⟩ := path_of_opening_deed now
            obtain ⟨known, among, _same⟩ := Option.map_eq_some_iff.mp found
            have within := (List.getElem?_eq_some_iff.mp among).1
            rw [own, Author.generation.injEq] at author
            omega
        | happens other happening =>
            simp only [stepDeeds] at now
            cases known : workshop.generation? other with
            | none =>
                rw [known] at now
                cases now
            | some others =>
                rw [known] at now
                rcases author_of_deed now with same | compiler
                · rw [same] at own ⊢
                  have equal := Author.generation.inj own
                  rw [equal, found, Option.some.injEq] at known
                  rw [known]
                  rfl
                · rw [own] at compiler
                  cases compiler
        | strays path content =>
            rw [List.mem_singleton.mp now] at own
            cases own
      · rcases generation?_step found step with ⟨happening, _own, moved⟩ | still
        · rw [ih moved later, (generation.occur_paths happening).1]
        · rw [ih still later]

theorem not_directory_of_file (workshop : Workshop) (steps : List Step) {place : Place}
    {content : Bytes}
    (file : (workshop.after steps).site.workspace.node? place = some (.file content)) :
    workshop.site.workspace.node? place ≠ some .directory := by
  intro directory
  rw [((workshop.after_same steps).directories place).mpr directory] at file
  cases file

end Workshop

/-- The copy of a generation is nowhere near its listing. -/
theorem copy_not_at_listing {request : Request}
    (listing : workspace.locate (request.listingIn workspace) = .ok place) :
    workspace.locate (request.copyIn workspace) ≠ .ok place := by
  intro copy
  have called := Workspace.getLast?_locate (SourceFile.getLast?_temporaryCopy _)
    (SourceFile.copy_ne_upward _) copy
  have calledToo := Workspace.getLast?_locate (SourceFile.getLast?_listing _ _)
    (SourceFile.listing_ne_upward _) listing
  rw [called, Option.some.injEq] at calledToo
  exact SourceFile.copy_ne_listing _ calledToo

/-! ### Whose listing it is -/

/-- Where a generation of a request leaves its listing there is no file, and while some steps are
made only that generation and its compiler write or remove one there. -/
def Workshop.Undisputed (workshop : Workshop) (request : Request) (steps : List Workshop.Step) :
    Prop :=
  ∀ place, workshop.site.workspace.locate (request.listingIn workshop.site.workspace) = .ok place →
    (∀ content, workshop.site.workspace.node? place ≠ some (.file content)) ∧
    ∀ deed ∈ workshop.deeds steps, deed.reaches workshop.site.workspace place = true →
      deed.author = .generation workshop.generations.length ∨
        deed.author = .compiler workshop.generations.length

/-- What is left of an undisputed listing is its own compiler's. -/
theorem Workshop.Undisputed.own {workshop : Workshop} {request : Request}
    {steps : List Workshop.Step}
    (undisputed : workshop.Undisputed request (.begins request :: steps)) {place : Place}
    {content : Bytes}
    (leads : workshop.site.workspace.locate (request.listingIn workshop.site.workspace) = .ok place)
    (left : workshop.left (.begins request :: steps) place = some (.file content)) :
    ∃ deed, workshop.lastDeed? (.begins request :: steps) place = some deed ∧
      deed.author = .compiler workshop.generations.length := by
  obtain ⟨nothing, authors⟩ := undisputed place leads
  unfold Workshop.left at left
  cases last : workshop.lastDeed? (.begins request :: steps) place with
  | none =>
      rw [last] at left
      exact absurd left (nothing content)
  | some deed =>
      refine ⟨deed, rfl, ?_⟩
      obtain ⟨member, reaches⟩ := List.mem_filter.mp (List.mem_of_getLast? last)
      refine (authors deed member reaches).resolve_left fun own => ?_
      have copy : deed.path = request.copyIn workshop.site.workspace := by
        rcases List.mem_append.mp member with opening | later
        · exact (Workshop.path_of_opening_deed opening).2
        · rw [Workshop.path_of_own_deed (workshop.generation?_begins request) later own,
            (Generation.begin_paths workshop.site request).1]
          rfl
      have there := (Deed.reaches_iff deed).mp reaches
      rw [copy] at there
      exact copy_not_at_listing leads there.1

/-- A generation among others, whatever they and strangers do meanwhile. What it returns is the file
at the place of its listing, as the last deed there has left it, or as it stood before if there was
none. If no file is left there once its compiler has ended as it should, it fails since there is no
listing to read. And if its listing is undisputed, then what is left there is its own compiler's.
Nothing but this makes a listing its own: the place is called after the stem of the source, and is
not cleared before the compiler starts. Generating at once is one such generation by
`Generation.generate_ended`. -/
theorem listing_left_last (workshop : Workshop) (request : Request)
    (steps : List Workshop.Step) (step : Workshop.Step) :
    let index := workshop.generations.length
    let before := workshop.after (.begins request :: steps)
    let after := before.step step
    let all := .begins request :: steps ++ [step]
    (∀ ending, before.stage? index ≠ some (.ended ending)) →
    (∀ generated, after.stage? index = some (.ended (.returned generated)) →
      generated.listing = request.listingIn workshop.site.workspace ∧
      ∃ place content, workshop.site.workspace.locate generated.listing = .ok place ∧
        workshop.left all place = some (.file content) ∧
        generated.text = Workspace.textOf content) ∧
    (∀ generation, before.generation? index = some generation → generation.Succeeds →
      step = .happens index .elapsed →
      Workspace.holdsNull (request.listingIn workshop.site.workspace) = false →
      (∀ place,
        workshop.site.workspace.locate (request.listingIn workshop.site.workspace) = .ok place →
          ∀ content, workshop.left all place ≠ some (.file content)) →
      ∃ reason, after.stage? index = some (.ended (.failed
        (.unreadableListing (request.listingIn workshop.site.workspace).toString reason)))) ∧
    (workshop.Undisputed request all →
      ∀ place content,
        workshop.site.workspace.locate (request.listingIn workshop.site.workspace) = .ok place →
        workshop.left all place = some (.file content) →
        ∃ deed, workshop.lastDeed? all place = some deed ∧ deed.author = .compiler index) := by
  intro index before after all waits
  have whole : after = workshop.after all := by
    change _ = List.foldl _ _ _
    rw [List.foldl_append]
    rfl
  have same : SameDirectories workshop.site.workspace after.site.workspace :=
    whole ▸ workshop.after_same all
  have holds {place : Place} {content : Bytes}
      (file : after.site.workspace.node? place = some (.file content)) :
      workshop.left all place = some (.file content) := by
    rw [whole] at file
    rw [← workshop.after_node? all (workshop.not_directory_of_file all file), file]
  obtain ⟨generation, found, _temporary, listing⟩ := Workshop.generation?_after
    (workshop.generation?_begins request) steps
  have found : before.generation? index = some generation := found
  have listing : generation.listing = request.listingIn workshop.site.workspace :=
    listing.trans (Generation.begin_paths workshop.site request).2
  refine ⟨?_, ?_, fun undisputed place content leads left => undisputed.own leads left⟩
  · intro generated returned
    have stands : ∀ ending, generation.stage ≠ .ended ending := by
      intro ending ended
      apply waits ending
      rw [Workshop.stage?_of_generation? found, ended]
    obtain ⟨rfl, succeeds⟩ := Workshop.succeeds_of_returned found stands returned
    have ended := Workshop.stage?_of_succeeds found succeeds
    rw [returned, listing] at ended
    cases read : after.site.workspace.readListing (request.listingIn workshop.site.workspace) with
    | error failure =>
        rw [read] at ended
        cases ended
    | ok text =>
        rw [read] at ended
        cases ended
        obtain ⟨place, content, leads, file, whose⟩ := Workspace.readListing_ok read
        exact ⟨rfl, place, content, Workspace.locate_of_same same.symm leads, holds file, whose⟩
  · intro other foundToo succeeds own noNull nothing
    rw [found, Option.some.injEq] at foundToo
    rw [← foundToo] at succeeds
    have ended := Workshop.stage?_of_succeeds found succeeds
    rw [listing, ← own] at ended
    obtain ⟨reason, read⟩ := Workspace.readListing_of_no_file noNull
      fun place leads content file =>
        nothing place (Workspace.locate_of_same same.symm leads) content (holds file)
    refine ⟨reason, ?_⟩
    rw [read] at ended
    exact ended

/-- Two sources whose listings are one file: the compiler of the second ends first. What the first
returns is its own listing if only its own compiler writes one, the other's if only the other does,
and nothing if neither does. -/
theorem listing_left_last_by_either :
    let writes : Behaviour :=
      .runs { duration := some (.ticks 0), listing := some [0x3B], output := some [], status := 0 }
    let workshop (behaviours : List Behaviour) : Workshop :=
      { site := { workspace := Workspace.empty (Path.parse "/W"), runs := [], behaviours }
        generations := [] }
    let request (source : String) : Request :=
      { command := ["cl"]
        source := Path.parse source
        text := .ofString "int x;"
        directory := "/W"
        buildDirectory := Path.parse "/W"
        limit := none }
    let steps : List Workshop.Step :=
      [.happens 0 .elapsed, .begins (request "a.cpp"), .happens 1 .elapsed, .happens 1 .elapsed]
    let all : List Workshop.Step := .begins (request "a.c") :: steps ++ [.happens 0 .elapsed]
    (∃ deed, (workshop [writes, .silent]).lastDeed? all ["W", "a.asme.asm"] = some deed ∧
      deed.author = .compiler 0) ∧
    (∃ place content, (workshop [.silent, writes]).left all place = some (.file content) ∧
      ";" = Workspace.textOf content) ∧
    ∃ reason, ((workshop [.silent, .silent]).after all).stage? 0 = some (.ended (.failed
      (.unreadableListing "/W/a.asme.asm" reason))) := by
  intro writes workshop request steps all
  let watch (script : Script) : Watch :=
    { process :=
        { index := 0
          arguments :=
            ["/FAs", "/Fa/W/a.asme.asm", "/Fo/W/a.asme.asm.obj", "-c", "/W/.asme-a.c"]
          script }
      verdict := .ends
      ticks := some 0 }
  let idle : Script :=
    { duration := some (.ticks 0), listing := none, output := some [], status := 0 }
  let before (behaviours : List Behaviour) : Workshop :=
    (workshop behaviours).after (.begins (request "a.c") :: steps)
  have waits (behaviours : List Behaviour) (script : Script)
      (stage : (before behaviours).stage? 0 = some (.running (watch script))) (ending : Ending) :
      (before behaviours).stage? 0 ≠ some (.ended ending) := by
    rw [stage]
    exact fun ended => by cases ended
  refine ⟨?_, ?_, ?_⟩
  · obtain ⟨_returned, _failed, own⟩ := listing_left_last (workshop [writes, .silent])
      (request "a.c") steps (.happens 0 .elapsed)
      (waits [writes, .silent] { idle with listing := some [0x3B] } (by decide +kernel))
    have known : (workshop [writes, .silent]).site.workspace.locate
        ((request "a.c").listingIn (workshop [writes, .silent]).site.workspace) =
          .ok ["W", "a.asme.asm"] := by
      decide +kernel
    refine own ?_ ["W", "a.asme.asm"] [0x3B] known (by decide +kernel)
    intro place leads
    rw [known, Except.ok.injEq] at leads
    rw [← leads]
    have nothing : (workshop [writes, .silent]).site.workspace.node? ["W", "a.asme.asm"] =
        none := by
      decide +kernel
    refine ⟨fun content file => ?_, by decide +kernel⟩
    rw [nothing] at file
    cases file
  · obtain ⟨returned, _failed, _own⟩ := listing_left_last (workshop [.silent, writes])
      (request "a.c") steps (.happens 0 .elapsed)
      (waits [.silent, writes] idle (by decide +kernel))
    obtain ⟨_listing, place, content, _leads, left, text⟩ := returned
      { text := ";", target := "/W/.asme-a.c", listing := Path.parse "/W/a.asme.asm" }
      (by decide +kernel)
    exact ⟨place, content, left, text⟩
  · have stage : (before [.silent, .silent]).stage? 0 = some (.running (watch idle)) := by
      decide +kernel
    obtain ⟨_returned, failed, _own⟩ := listing_left_last (workshop [.silent, .silent])
      (request "a.c") steps (.happens 0 .elapsed) (waits [.silent, .silent] idle stage)
    have known : (workshop [.silent, .silent]).site.workspace.locate
        ((request "a.c").listingIn (workshop [.silent, .silent]).site.workspace) =
          .ok ["W", "a.asme.asm"] := by
      decide +kernel
    have path : ((request "a.c").listingIn (workshop [.silent, .silent]).site.workspace).toString =
        "/W/a.asme.asm" := by
      decide +kernel
    rw [path] at failed
    obtain ⟨generation, found, running⟩ := Option.map_eq_some_iff.mp stage
    refine failed generation found ⟨watch idle, running, rfl, rfl, generation.site, rfl⟩ rfl
      (by decide +kernel) ?_
    intro place leads content left
    rw [known, Except.ok.injEq] at leads
    have nothing : (workshop [.silent, .silent]).left all ["W", "a.asme.asm"] = none := by
      decide +kernel
    rw [← leads, nothing] at left
    cases left

/-- A compiler that ends well and writes no listing: what an earlier run has left is returned. -/
theorem listing_of_earlier_run_returned :
    let site : Site :=
      { workspace := ((Workspace.empty (Path.parse "/W")).addDirectory ["W", "src"]).addFile
          ["W", "main.asme.asm"] (Text.encodeUtf8 "old\n")
        runs := []
        behaviours := [.silent] }
    let request : Request :=
      { command := ["cl", "-c", "m"]
        source := Path.parse "/W/src/main.c"
        text := .ofString "int x;\n"
        directory := "/W"
        buildDirectory := Path.parse "/W"
        limit := none }
    let workshop : Workshop := { site, generations := [] }
    let run : List Workshop.Step :=
      [.begins request, .happens 0 .elapsed, .happens 0 .elapsed]
    (workshop.after run).stage? 0 = some (.ended (.returned
      { text := "old\n"
        target := "/W/src/.asme-main.c"
        listing := Path.parse "/W/main.asme.asm" })) ∧
    ∀ deed ∈ workshop.deeds run, deed.author ≠ .compiler 0 := by
  decide +kernel

end Compile

end ListingAtlas
