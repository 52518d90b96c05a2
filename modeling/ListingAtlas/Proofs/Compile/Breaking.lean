import ListingAtlas.Proofs.Compile.Footprint
import ListingAtlas.Proofs.Outcome
import ListingAtlas.Proofs.Text.MadeOf

/-!
Failures of generating a listing that are neither the compiler's nor about reading a listing: files
that cannot be written, a time that cannot be waited for, and a path that holds a null. However it
goes, generating a listing leaves the directories as they were.
-/

namespace ListingAtlas.Compile

open Workspace (SameDirectories)

/-! ### Directories -/

section

variable (site : Site) (request : Request)

theorem sameDirectories_begin :
    SameDirectories site.workspace (begin site request).site.workspace := by
  have opens := Deed.performAll_same site.workspace (openingDeeds site request 0)
  have goesOn := Deed.performAll_same (Generation.begin site request).site.workspace
    ((Generation.begin site request).deeds 0 .elapsed)
  rw [← Generation.opening_workspace] at opens
  rw [← Generation.occur_workspace] at goesOn
  rw [Generation.site_begin]
  exact opens.trans goesOn

theorem Watch.sameDirectories_conclude (watch : Watch) :
    SameDirectories site.workspace (watch.conclude site).1.workspace := by
  unfold conclude
  cases watch.verdict with
  | expires failure => exact SameDirectories.refl _
  | ends =>
      have finished := watch.process.performAll_deeds 0 site
      simp only
      cases ended : site.finish watch.process with
      | error failure => exact SameDirectories.refl _
      | ok after =>
          rw [ended] at finished
          simp only at finished ⊢
          rw [← finished]
          exact Deed.performAll_same site.workspace _

theorem sameDirectories_conclude (pending : Pending) :
    SameDirectories site.workspace (pending.conclude site).1.workspace := by
  have first := pending.watch.sameDirectories_conclude site
  have second := Workspace.sameDirectories_removeFile (pending.watch.conclude site).1.workspace
    pending.temporary
  unfold Pending.conclude Pending.collect
  simp only
  split
  · exact first.trans second
  · exact first.trans second

theorem sameDirectories_generate :
    SameDirectories site.workspace (generate site request).1.workspace := by
  have begins := sameDirectories_begin site request
  unfold generate
  simp only
  split
  · exact begins
  · exact begins.trans (sameDirectories_conclude (begin site request).site _)

end

/-! ### Waiting -/

/-- Why a wait for a process fails that does not time out: its limit is void, or more than any clock
measures. -/
inductive Unwaitable : Option Limit → Failure → Prop
  | void : Unwaitable (some .void) .voidLimit
  | immeasurable (negative : Bool) : Unwaitable (some (.immeasurable negative)) .immeasurableTime

/-- The files behind a compiler that ended by itself. -/
def Request.leaves (request : Request) (host : Host) (workspace copied : Workspace)
    (script : Script) : Except Failure Workspace :=
  match script.listing with
  | none => .ok copied
  | some listing =>
      let path := Path.parse (request.listingIn workspace).toString
      match copied.writeBytes path
        (writtenListing (request.argumentsIn workspace) listing), host with
      | .ok left, _ => .ok left
      | .error _, .system => .ok copied
      | .error failure, .rehearsal => .error failure

/-- What a compiler that ended by itself has generated. -/
def Request.collects (request : Request) (workspace left : Workspace) (script : Script) :
    Except Failure Generated :=
  let copy := request.copyIn workspace
  let listing := request.listingIn workspace
  if script.status == 0 then
    ((left.removeFile copy).readListing listing).map fun text =>
      { text, target := copy.toString, listing }
  else .error (.compilerExited script.status (Text.decodeUtf8 (script.output.getD [])))

section

variable {site : Site} {request : Request}

theorem startWatch_result (site : Site) (program : String) (arguments : List String)
    (directory : String) (limit : Option Limit) :
    (startWatch site program arguments directory limit).2 =
      (site.launch program arguments directory).bind fun script =>
        Process.watch { index := site.runs.length, arguments, script } limit := by
  unfold startWatch Site.start
  cases site.launch program arguments directory <;> rfl

/-- A start changes neither the files nor who carries it out. -/
theorem startWatch_keeps (site : Site) (program : String) (arguments : List String)
    (directory : String) (limit : Option Limit) :
    let after := (startWatch site program arguments directory limit).1
    after.workspace = site.workspace ∧ after.host = site.host := by
  unfold startWatch Site.start
  cases site.launch program arguments directory <;> exact ⟨rfl, rfl⟩

theorem finish_eq (site : Site) (request : Request) (workspace : Workspace) (index : Nat)
    (script : Script) :
    site.finish { index, arguments := request.argumentsIn workspace, script } =
      (request.leaves site.host workspace site.workspace script).map fun left =>
        { site with workspace := left } := by
  unfold Site.finish Request.leaves
  simp only [Request.argumentsIn, listingPath?_listingArguments]
  cases script.listing with
  | none => rfl
  | some listing =>
      simp only
      split
      · rename_i wrote
        simp [wrote, Except.map]
      · rename_i refused here
        cases site
        cases here
        simp [refused, Except.map]
      · rename_i refused here
        cases site
        cases here
        simp [refused, Except.map]

end

section

variable {site : Site} {request : Request} {characters : String}

theorem begin_of_unwritten {failure : Failure} (nonempty : request.command ≠ [])
    (copying : writeCopy site.workspace (request.copyIn site.workspace) request.text =
      (site.workspace, .error failure)) :
    (begin site request).outcome = .error failure := by
  cases command : request.command with
  | nil => exact absurd command nonempty
  | cons program arguments =>
      unfold Request.copyIn at copying
      unfold begin
      simp only [command, copying]

theorem begin_of_written {copied : Workspace} (nonempty : request.command ≠ [])
    (copying : writeCopy site.workspace (request.copyIn site.workspace) request.text =
      (copied, .ok ())) :
    let watched := startWatch { site with workspace := copied } (request.command.headD "")
      (request.argumentsIn site.workspace) request.directory request.limit
    (begin site request).outcome = watched.2.map (fun watch =>
        { watch
          temporary := request.copyIn site.workspace
          listing := request.listingIn site.workspace }) ∧
      ∀ pending, (begin site request).outcome = .ok pending →
        (begin site request).site = watched.1 := by
  intro watched
  cases command : request.command with
  | nil => exact absurd command nonempty
  | cons program arguments =>
      unfold Request.copyIn at copying
      have same : watched = startWatch { site with workspace := copied } program
          (Command.listingArguments arguments
            (SourceFile.listing (site.workspace.absolute request.source)
              (site.workspace.absolute request.buildDirectory)).toString
            (SourceFile.temporaryCopy (site.workspace.absolute request.source)).toString)
          request.directory request.limit := by
        simp only [watched, Request.argumentsIn, command, List.headD_cons, List.tail_cons]
        rfl
      unfold begin
      simp only [command, copying]
      rw [← same]
      match watched with
      | (after, .error failure) => exact ⟨rfl, fun pending started => by cases started⟩
      | (after, .ok watch) => exact ⟨rfl, fun pending started => rfl⟩

theorem conclude_of_ends (site : Site) (request : Request) (workspace : Workspace) (index : Nat)
    (script : Script) (ticks : Option Nat) :
    let process : Process := { index, arguments := request.argumentsIn workspace, script }
    let pending : Pending :=
      { watch := { process, verdict := .ends, ticks }
        temporary := request.copyIn workspace
        listing := request.listingIn workspace }
    (pending.conclude site).2 =
      (request.leaves site.host workspace site.workspace script).bind fun left =>
        request.collects workspace left script := by
  intro process pending
  unfold Pending.conclude Watch.conclude
  simp only [pending, process, finish_eq]
  cases request.leaves site.host workspace site.workspace script with
  | error failure => rfl
  | ok left =>
      simp only [Except.map, Except.bind, Request.collects, Pending.collect, Script.outcome]
      cases script.status == 0 <;> rfl

theorem generate_of_begun :
    (generate site request).2.2 = (begin site request).outcome.bind fun pending =>
      (pending.conclude (begin site request).site).2 := by
  unfold generate
  simp only
  cases (begin site request).outcome <;> rfl

/-- Generating a listing is to write the copy, to start the compiler, to wait for it, to let it
leave its listing, and to read that. -/
theorem generate_eq (nonempty : request.command ≠ [])
    (encodable : request.text.toString? = some characters) :
    let before := site.workspace
    (generate site request).2.2 =
      (before.writeBytes (request.copyIn before) (Text.encodeUtf8 characters)).bind fun copied =>
        (request.launchOn site).bind fun script =>
          match foresee script.duration request.limit with
          | .error failure => .error failure
          | .ok (.expires failure, _) => .error failure
          | .ok (.ends, _) =>
              (request.leaves site.host before copied script).bind fun left =>
                request.collects before left script := by
  intro before
  rw [generate_of_begun]
  -- Each part is replaced by what it comes to, in the order in which they are done.
  have copying := writeCopy_of_encodable encodable before (request.copyIn before)
  cases wrote : before.writeBytes (request.copyIn before) (Text.encodeUtf8 characters) with
  | error failure =>
      rw [wrote] at copying
      rw [begin_of_unwritten nonempty copying]
      rfl
  | ok copied =>
      rw [wrote] at copying
      obtain ⟨outcome, reached⟩ := begin_of_written nonempty copying
      have sameLaunch : Site.launch { site with workspace := copied } (request.command.headD "")
        (request.argumentsIn before) request.directory = request.launchOn site := rfl
      rw [startWatch_result, sameLaunch] at outcome
      change _ = (request.launchOn site).bind _
      cases launched : request.launchOn site with
      | error failure =>
          rw [launched] at outcome
          rw [outcome]
          rfl
      | ok script =>
          rw [launched] at outcome
          simp only [Except.bind, Process.watch] at outcome ⊢
          match foresees : foresee script.duration request.limit with
          | .error failure =>
              rw [foresees] at outcome
              rw [outcome]
              rfl
          | .ok (.expires failure, ticks) =>
              rw [foresees] at outcome
              rw [outcome]
              rfl
          | .ok (.ends, ticks) =>
              rw [foresees] at outcome
              obtain ⟨sameFiles, sameHost⟩ : (begin site request).site.workspace = copied ∧
                  (begin site request).site.host = site.host := by
                rw [reached _ outcome]
                exact startWatch_keeps _ _ _ _ _
              rw [outcome]
              change (Pending.conclude _ _).2 = _
              rw [conclude_of_ends, sameFiles, sameHost]
              rfl

end

/-! ### Starting -/

/-- A text that the system is told when a compiler is to start holds a null. -/
def Request.TellsNull (request : Request) (workspace : Workspace) : Prop :=
  ∃ text ∈ request.command.headD "" :: request.directory :: request.argumentsIn workspace,
    '\x00' ∈ text.toList

theorem not_mem_toString {path : Path}
    (root : path.root = "" ∨ path.root = "/" ∨ path.root = "//")
    (noNull : Workspace.holdsNull path = false) : '\x00' ∉ path.toString.toList := by
  have parts : ∀ part ∈ path.parts, MadeOf (· ≠ '\x00') part := by
    intro part among character member null
    have clean := List.any_eq_false.mp noNull part among
    rw [null] at member
    exact clean (by simpa using member)
  have beginning : MadeOf (· ≠ '\x00') path.root := by
    rcases root with same | same | same <;> rw [same] <;> decide
  have whole : MadeOf (· ≠ '\x00') path.toString := by
    unfold Path.toString
    split
    · decide
    · exact beginning.append (MadeOf.intercalate (by decide) parts)
  exact fun null => whole _ null rfl

section

variable {site : Site} {request : Request} {script : Script} {failure : Failure}

/-- To the system every time that a process takes is measured, if it ends at all. -/
theorem Site.measured_of_launch {program directory : String} {arguments : List String}
    (system : site.host = .system)
    (launched : site.launch program arguments directory = .ok script) :
    script.duration ≠ some .immeasurable := by
  unfold Site.launch at launched
  rw [system] at launched
  simp only at launched
  split at launched
  · cases launched
  · obtain ⟨planned, _behaviour, rfl⟩ := map_eq_ok_iff.mp launched
    intro immeasurable
    have short := (Option.filter_eq_some_iff.mp immeasurable).2
    cases short

theorem launchOn_of_system (system : site.host = .system) :
    (request.TellsNull site.workspace → request.launchOn site = .error .nullInPath) ∧
      (¬ request.TellsNull site.workspace →
        request.launchOn site = site.nextBehaviour.1.launch.map Script.unhurried) := by
  have test : ((request.command.headD "" :: request.directory ::
      request.argumentsIn site.workspace).any fun text => text.toList.contains '\x00') = true ↔
      request.TellsNull site.workspace := by
    rw [List.any_eq_true]
    simp only [List.contains_eq_mem, decide_eq_true_eq]
    rfl
  unfold Request.launchOn Site.launch
  rw [system]
  refine ⟨fun null => ?_, fun clean => ?_⟩
  · simp only
    rw [if_pos (test.mpr null)]
  · simp only
    rw [if_neg (fun null => clean (test.mp null))]

end

/-! ### Breaking -/

/-- Why generating a listing fails that neither the compiler nor reading its listing accounts for:
the copy cannot be written, a null is to be told to the compiler, or the wait for it cannot begin. -/
inductive Breaks (site : Site) (request : Request) (characters : String) : Failure → Prop
  | copy {failure : Failure}
      (refused : site.workspace.writeBytes (request.copyIn site.workspace)
        (Text.encodeUtf8 characters) = .error failure) :
      Breaks site request characters failure
  | null {copied : Workspace}
      (writes : site.workspace.writeBytes (request.copyIn site.workspace)
        (Text.encodeUtf8 characters) = .ok copied)
      (null : request.TellsNull site.workspace) :
      Breaks site request characters .nullInPath
  | wait {copied : Workspace} {script : Script} {failure : Failure}
      (writes : site.workspace.writeBytes (request.copyIn site.workspace)
        (Text.encodeUtf8 characters) = .ok copied)
      (starts : request.launchOn site = .ok script)
      (endless : Unwaitable request.limit failure) :
      Breaks site request characters failure

end ListingAtlas.Compile
