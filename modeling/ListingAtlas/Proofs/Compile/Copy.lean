import Mathlib.Data.List.TakeWhile
import ListingAtlas.Proofs.Compile.Stages
import ListingAtlas.Proofs.Outcome
import ListingAtlas.Proofs.Path
import ListingAtlas.Proofs.Text.EditorText
import ListingAtlas.Proofs.Workspace

/-!
The temporary copy of a source. It is there when the compiler starts, which is told of it last, and
it is gone when the generation is over, whatever the compiler did and whenever the listing was given
up. Other files stay as they are, but for those that the compiler writes.
-/

namespace ListingAtlas

namespace Compile

open Text (Bytes)
open Workspace (SameDirectories)

theorem writeCopy_of_encodable {text : Text.EditorText} {characters : String}
    (encodable : text.toString? = some characters) (workspace : Workspace) (copy : Path) :
    writeCopy workspace copy text =
      match workspace.writeBytes copy (Text.encodeUtf8 characters) with
      | .error failure => (workspace, .error failure)
      | .ok written => (written, .ok ()) := by
  unfold writeCopy
  rw [encodable, Text.EditorText.loneHalves?_of_toString? encodable]
  rfl

/-! ### The start of the compiler -/

theorem getLast?_listingArguments (arguments : List String) (listing temporary : String) :
    (Command.listingArguments arguments listing temporary).getLast? = some temporary := by
  unfold Command.listingArguments
  rw [List.getLast?_append]
  rfl

theorem listingPath?_listingArguments (arguments : List String) (listing temporary : String) :
    listingPath? (Command.listingArguments arguments listing temporary) = some listing := by
  have other : listingOption.isPrefixOf "/FAs".toList = false := by decide
  have option : ("/Fa" ++ listing).toList = listingOption ++ listing.toList :=
    String.toList_append
  have here : listingOption.isPrefixOf (listingOption ++ listing.toList) = true := by
    rw [List.isPrefixOf_iff_prefix]
    exact List.prefix_append _ _
  unfold listingPath? Command.listingArguments
  simp only [List.cons_append, List.find?_cons, other, here, Option.map_some, option,
    List.drop_left, String.ofList_toList]

theorem Site.sourceOf_eq {workspace : Workspace} {arguments : List String} {copy : Path}
    (spelled : copy.Spelled) (last : arguments.getLast? = some copy.toString) {content : Bytes}
    (held : workspace.lookUp copy = .ok (.file content)) :
    Site.sourceOf workspace arguments = some content := by
  unfold Site.sourceOf
  rw [last]
  simp only [spelled.parse_toString, held]

/-- One more run, which was told of a file last and found this content in it. -/
def HandedOver (before after : List Run) (copy : Path) (content : Bytes) : Prop :=
  ∃ run, after = before ++ [run] ∧ run.arguments.getLast? = some copy.toString ∧
    run.source = some content

theorem Site.start_handsOver (site : Site) {arguments : List String} {copy : Path}
    {content : Bytes} (last : arguments.getLast? = some copy.toString)
    (source : Site.sourceOf site.workspace arguments = some content) (program directory : String) :
    (site.start program arguments directory).1.workspace = site.workspace ∧
      HandedOver site.runs (site.start program arguments directory).1.runs copy content ∧
      ∀ process, (site.start program arguments directory).2 = .ok process →
        process.index = site.runs.length := by
  refine ⟨rfl, ⟨_, rfl, last, source⟩, ?_⟩
  intro process started
  unfold Site.start at started
  simp only at started
  obtain ⟨script, _launched, made⟩ := map_eq_ok_iff.mp started
  rw [← made]

theorem Site.runs_kill {site : Site} {before : List Run} {run : Run} {process : Process}
    (runs : site.runs = before ++ [run]) (newest : process.index = before.length) :
    (site.kill process).runs = before ++ [{ run with killed := true }] := by
  have within : before.length < (before ++ [run]).length := by simp
  unfold Site.kill
  rw [runs, newest, List.modify_eq_take_cons_drop within]
  simp

/-- Whether the new run is killed is no matter of what was handed over to it. -/
theorem HandedOver.kill {before : List Run} {site : Site} {copy : Path} {content : Bytes}
    (handed : HandedOver before site.runs copy content) {process : Process}
    (newest : process.index = before.length) :
    HandedOver before (site.kill process).runs copy content := by
  obtain ⟨run, runs, last, source⟩ := handed
  exact ⟨{ run with killed := true }, Site.runs_kill runs newest, last, source⟩

/-! ### The end of a process -/

/-- A process that ends has written its listing, or leaves everything as it was. -/
theorem Site.finish_eq_ok {site left : Site} {process : Process}
    (finished : site.finish process = .ok left) :
    left = site ∨ ∃ listing path workspace, process.script.listing = some listing ∧
      listingPath? process.arguments = some path ∧
      site.workspace.writeBytes (Path.parse path) (writtenListing process.arguments listing) =
        .ok workspace ∧
      left = { site with workspace } := by
  unfold Site.finish at finished
  split at finished
  · rename_i listing path listed named
    simp only at finished
    split at finished
    · rename_i workspace wrote
      exact Or.inr ⟨listing, path, workspace, listed, named, wrote,
        (Except.ok.inj finished).symm⟩
    · exact Or.inl (Except.ok.inj finished).symm
    · cases finished
  · exact Or.inl (Except.ok.inj finished).symm

/-! ### What stays as it was -/

def Stage.process? : Stage → Option Process
  | .starting process => some process
  | .running watch => some watch.process
  | .reaping _ _ => none
  | .ended _ => none

/-- What a generation keeps from the site before it: the directories, one new run that was handed
the copy, and all files but the copy and those that the compiler has written. -/
structure Generation.Keeps (generation : Generation) (before : Site) (copy : Path) (place : Place)
    (content : Bytes) : Prop where
  temporary : generation.temporary = copy
  same : SameDirectories before.workspace generation.site.workspace
  handed : HandedOver before.runs generation.site.runs copy content
  others : ∀ other, other ≠ place →
    (∀ path ∈ generation.written, before.workspace.locate path ≠ .ok other) →
      generation.site.workspace.node? other = before.workspace.node? other

/-- On its way, a generation has its copy. -/
structure Generation.Underway (generation : Generation) (before : Site) (copy : Path)
    (place : Place) (content : Bytes) : Prop extends
    Generation.Keeps generation before copy place content where
  waits : ∀ ending, generation.stage ≠ .ended ending
  newest : ∀ process, generation.stage.process? = some process →
    process.index = before.runs.length
  copied : ∃ bytes, generation.site.workspace.node? place = some (.file bytes)

/-- At its end, it has none, and tells by what path the listing calls the source. -/
structure Generation.Cleared (generation : Generation) (before : Site) (copy : Path)
    (place : Place) (content : Bytes) : Prop extends
    Generation.Keeps generation before copy place content where
  ended : ∃ ending, generation.stage = .ended ending ∧
    ∀ generated, ending = .returned generated → generated.target = copy.toString
  gone : generation.site.workspace.node? place = none

section

variable {generation : Generation} {before : Site} {copy : Path} {place : Place} {content : Bytes}

/-- Whoever leaves a copy behind that is still a file removes it. -/
theorem Generation.Keeps.leave (keeps : generation.Keeps before copy place content)
    (copied : ∃ bytes, generation.site.workspace.node? place = some (.file bytes))
    (leads : before.workspace.locate copy = .ok place) {ending : Ending}
    (told : ∀ generated, ending = .returned generated → generated.target = copy.toString) :
    (generation.leave ending).Cleared before copy place content := by
  obtain ⟨bytes, file⟩ := copied
  have still : generation.site.workspace.locate generation.temporary = .ok place := by
    rw [keeps.temporary]
    exact Workspace.locate_of_same keeps.same leads
  have removed := Workspace.removedAt_removeFile still file
  refine ⟨⟨keeps.temporary, keeps.same.trans removed.same, keeps.handed, ?_⟩,
    ⟨ending, rfl, told⟩, removed.here⟩
  intro other different untouched
  exact (removed.elsewhere other different).trans (keeps.others other different untouched)

theorem Generation.Underway.leave (underway : generation.Underway before copy place content)
    (leads : before.workspace.locate copy = .ok place) {ending : Ending}
    (told : ∀ generated, ending = .returned generated → generated.target = copy.toString) :
    (generation.leave ending).Cleared before copy place content :=
  underway.toKeeps.leave underway.copied leads told

theorem Generation.Underway.deliver (underway : generation.Underway before copy place content)
    (leads : before.workspace.locate copy = .ok place) :
    generation.deliver.Cleared before copy place content := by
  apply underway.leave leads
  intro generated returned
  cases read : (generation.site.removeFile generation.temporary).workspace.readListing
      generation.listing with
  | error failure =>
      rw [read] at returned
      cases returned
  | ok text =>
      rw [read] at returned
      rw [← Ending.returned.inj returned, ← underway.temporary]

/-- A file that the compiler writes may be the copy itself, which then is still a file. -/
theorem Generation.Underway.wrote (underway : generation.Underway before copy place content)
    {path : Path} {bytes : Bytes} {workspace : Workspace}
    (wrote : generation.site.workspace.writeBytes path bytes = .ok workspace) :
    Generation.Underway
      { generation with
        site := { generation.site with workspace }
        written := path :: generation.written } before copy place content := by
  obtain ⟨target, leads, written⟩ := Workspace.exists_writtenAt wrote
  refine ⟨⟨underway.temporary, underway.same.trans written.same, underway.handed, ?_⟩,
    underway.waits, underway.newest, ?_⟩
  · intro other different untouched
    have elsewhere : other ≠ target := by
      rintro rfl
      exact untouched path List.mem_cons_self
        ((Workspace.locate_iff_of_same underway.same path other).mp leads)
    exact (written.elsewhere other elsewhere).trans (underway.others other different
      fun earlier member => untouched earlier (List.mem_cons_of_mem path member))
  · by_cases same : place = target
    · exact ⟨bytes, by rw [same]; exact written.here⟩
    · obtain ⟨held, file⟩ := underway.copied
      exact ⟨held, (written.elsewhere place same).trans file⟩

theorem Generation.Underway.write (underway : generation.Underway before copy place content)
    (path : Path) (bytes : Bytes) :
    (generation.write path bytes).Underway before copy place content := by
  unfold Generation.write
  split
  · exact underway
  · exact underway
  · rename_i wrote _stays
    exact underway.wrote wrote

theorem Generation.Underway.kill (underway : generation.Underway before copy place content)
    {process : Process} (works : generation.stage.process? = some process)
    (failure : Option Failure) :
    (generation.kill process failure).Underway before copy place content := by
  refine ⟨⟨underway.temporary, underway.same, underway.handed.kill (underway.newest process works),
    underway.others⟩, ?_, ?_, underway.copied⟩
  · intro ending ended
    cases ended
  · intro other reaped
    cases reaped

theorem Generation.Underway.wait (underway : generation.Underway before copy place content)
    {watch : Watch} (works : generation.stage.process? = some watch.process) :
    Generation.Underway { generation with stage := .running watch } before copy place content := by
  refine ⟨⟨underway.temporary, underway.same, underway.handed, underway.others⟩, ?_, ?_,
    underway.copied⟩
  · intro ending ended
    cases ended
  · intro process same
    exact underway.newest process (works.trans same)

/-- What the compiler may have written to is no promise that it has. -/
theorem Generation.Underway.tried (underway : generation.Underway before copy place content)
    (paths : List Path) :
    Generation.Underway { generation with written := paths ++ generation.written } before copy
      place content := by
  refine ⟨⟨underway.temporary, underway.same, underway.handed, ?_⟩, underway.waits,
    underway.newest, underway.copied⟩
  intro other different untouched
  exact underway.others other different fun path member =>
    untouched path (List.mem_append_right _ member)

/-- A process that ends has written its listing, or could not, or had none to write. -/
theorem Generation.Underway.finish (underway : generation.Underway before copy place content)
    (process : Process) : (generation.finish process).1.Underway before copy place content := by
  unfold Generation.finish
  cases finished : generation.site.finish process with
  | error failure => exact underway
  | ok site =>
      rcases Site.finish_eq_ok finished with
        rfl | ⟨listing, path, workspace, listed, named, wrote, rfl⟩
      · exact underway.tried _
      · simp only [Process.listingFile?, listed, named]
        exact underway.wrote wrote

theorem Generation.Underway.hear (underway : generation.Underway before copy place content)
    (leads : before.workspace.locate copy = .ok place) (outcome : Except Failure String) :
    (generation.hear outcome).Cleared before copy place content := by
  cases outcome with
  | error failure => exact underway.leave leads fun generated returned => by cases returned
  | ok output => exact underway.deliver leads

/-! ### Whatever happens -/

theorem process_of_watch {process : Process} {limit : Option Limit} {watch : Watch}
    (watched : process.watch limit = .ok watch) : watch.process = process := by
  unfold Process.watch at watched
  cases foreseen : foresee process.script.duration limit with
  | error failure =>
      rw [foreseen] at watched
      cases watched
  | ok known =>
      rw [foreseen] at watched
      rw [← Except.ok.inj watched]

theorem Generation.Underway.elapse (underway : generation.Underway before copy place content)
    (leads : before.workspace.locate copy = .ok place) :
    generation.elapse.Underway before copy place content ∨
      generation.elapse.Cleared before copy place content := by
  unfold Generation.elapse
  cases stage : generation.stage with
  | starting process =>
      simp only
      cases watched : process.watch generation.limit with
      | error failure =>
          exact Or.inr (underway.leave leads fun generated returned => by cases returned)
      | ok watch =>
          have works : generation.stage.process? = some watch.process := by
            rw [stage, process_of_watch watched]
            rfl
          exact Or.inl (underway.wait works)
  | running watch =>
      have works : generation.stage.process? = some watch.process := by
        rw [stage]
        rfl
      simp only
      cases watch.verdict with
      | expires failure => exact Or.inl (underway.kill works (some failure))
      | ends => exact Or.inr ((underway.finish watch.process).hear leads _)
  | reaping process failure =>
      cases failure with
      | none => exact Or.inr (underway.leave leads fun generated returned => by cases returned)
      | some failure =>
          exact Or.inr (underway.leave leads fun generated returned => by cases returned)
  | ended ending => exact absurd stage (underway.waits ending)

theorem Generation.Underway.cancel (underway : generation.Underway before copy place content)
    (leads : before.workspace.locate copy = .ok place) :
    generation.cancel.Underway before copy place content ∨
      generation.cancel.Cleared before copy place content := by
  unfold Generation.cancel
  cases stage : generation.stage with
  | starting process => exact Or.inl (underway.kill (by rw [stage]; rfl) none)
  | running watch => exact Or.inl (underway.kill (by rw [stage]; rfl) none)
  | reaping process failure =>
      exact Or.inr (underway.leave leads fun generated returned => by cases returned)
  | ended ending => exact absurd stage (underway.waits ending)

theorem Generation.Underway.occur (underway : generation.Underway before copy place content)
    (leads : before.workspace.locate copy = .ok place) (happening : Happening) :
    (generation.occur happening).Underway before copy place content ∨
      (generation.occur happening).Cleared before copy place content := by
  cases happening with
  | elapsed => exact underway.elapse leads
  | cancelled => exact underway.cancel leads
  | writes path bytes => exact Or.inl (underway.write path bytes)

theorem Generation.Underway.after (underway : generation.Underway before copy place content)
    (leads : before.workspace.locate copy = .ok place) (happenings : List Happening) :
    (generation.after happenings).Underway before copy place content ∨
      (generation.after happenings).Cleared before copy place content := by
  induction happenings generalizing generation with
  | nil => exact Or.inl underway
  | cons happening happenings ih =>
      change ((generation.occur happening).after happenings).Underway _ _ _ _ ∨ _
      rcases underway.occur leads happening with still | cleared
      · exact ih still
      · obtain ⟨ending, ended, _told⟩ := cleared.ended
        have stays := Generation.after_of_ended ended happenings
        exact Or.inr (stays.symm ▸ cleared)

theorem Generation.Cleared.after (cleared : generation.Cleared before copy place content)
    (happenings : List Happening) :
    (generation.after happenings).Cleared before copy place content := by
  obtain ⟨ending, ended, _told⟩ := cleared.ended
  exact (Generation.after_of_ended ended happenings).symm ▸ cleared

/-- What is found when a generation has ended. -/
theorem Generation.Cleared.leftBehind (cleared : generation.Cleared before copy place content)
    (leads : before.workspace.locate copy = .ok place) {ending : Ending}
    (ended : generation.stage = .ended ending) :
    (∀ generated, ending = .returned generated → generated.target = copy.toString) ∧
      generation.site.workspace.isFile copy = .ok false ∧
      ∀ other, before.workspace.locate copy ≠ .ok other →
        (∀ path ∈ generation.written, before.workspace.locate path ≠ .ok other) →
        generation.site.workspace.node? other = before.workspace.node? other := by
  obtain ⟨known, endedToo, told⟩ := cleared.ended
  rw [ended, Stage.ended.injEq] at endedToo
  refine ⟨?_, ?_, ?_⟩
  · rw [endedToo]
    exact told
  · exact Workspace.isFile_of_node?_eq_none (Workspace.locate_of_same cleared.same leads)
      cleared.gone
  · intro other different untouched
    apply cleared.others other ?_ untouched
    rintro rfl
    exact different leads

/-- Who gives up is let go as soon as the process that is killed for it has ended. -/
theorem Generation.exists_ended_of_cancel (generation : Generation) :
    ∃ ending, (generation.after [.cancelled, .elapsed]).stage = .ended ending := by
  change ∃ ending, generation.cancel.elapse.stage = .ended ending
  unfold Generation.cancel
  cases stage : generation.stage with
  | starting process => exact ⟨.cancelled, rfl⟩
  | running watch => exact ⟨.cancelled, rfl⟩
  | reaping process failure => exact ⟨.cancelled, rfl⟩
  | ended ending =>
      refine ⟨ending, ?_⟩
      simp only [Generation.elapse, stage]

end

/-! ### From the start on -/

section

variable {site : Site} {request : Request} {text : String}

/-- Where the copy cannot be written, the generation is over before it has changed anything. -/
theorem Generation.begin_of_unwritten {failure : Failure} (nonempty : request.command ≠ [])
    (encodable : request.text.toString? = some text)
    (refused : site.workspace.writeBytes
      (SourceFile.temporaryCopy (site.workspace.absolute request.source))
      (Text.encodeUtf8 text) = .error failure) :
    (Generation.begin site request).Ended site (.failed failure) := by
  unfold Generation.begin
  cases command : request.command with
  | nil => exact absurd command nonempty
  | cons program arguments =>
      simp only [writeCopy_of_encodable encodable, refused]
      exact ⟨rfl, rfl⟩

/-- Where it can be written, the compiler starts on it, or refuses to start and it is removed. -/
theorem Generation.begin_of_written {workspace : Workspace} {place : Place}
    (nonempty : request.command ≠ []) (encodable : request.text.toString? = some text)
    (spelled : (SourceFile.temporaryCopy (site.workspace.absolute request.source)).Spelled)
    (leads : site.workspace.locate
      (SourceFile.temporaryCopy (site.workspace.absolute request.source)) = .ok place)
    (wrote : site.workspace.writeBytes
      (SourceFile.temporaryCopy (site.workspace.absolute request.source))
      (Text.encodeUtf8 text) = .ok workspace)
    (written : Workspace.WrittenAt site.workspace place (Text.encodeUtf8 text) workspace) :
    (Generation.begin site request).Underway site
        (SourceFile.temporaryCopy (site.workspace.absolute request.source)) place
        (Text.encodeUtf8 text) ∨
      (Generation.begin site request).Cleared site
        (SourceFile.temporaryCopy (site.workspace.absolute request.source)) place
        (Text.encodeUtf8 text) := by
  let copy := SourceFile.temporaryCopy (site.workspace.absolute request.source)
  let listing := SourceFile.listing (site.workspace.absolute request.source)
    (site.workspace.absolute request.buildDirectory)
  have held : workspace.lookUp copy = .ok (.file (Text.encodeUtf8 text)) :=
    Workspace.lookUp_eq_ok (Workspace.locate_of_same written.same leads) written.here
  unfold Generation.begin
  cases command : request.command with
  | nil => exact absurd command nonempty
  | cons program arguments =>
      simp only [writeCopy_of_encodable encodable, wrote]
      let given := Command.listingArguments arguments listing.toString copy.toString
      have last : given.getLast? = some copy.toString := getLast?_listingArguments _ _ _
      have source : Site.sourceOf workspace given = some (Text.encodeUtf8 text) :=
        Site.sourceOf_eq spelled last held
      have begun := Site.start_handsOver { site with workspace } last source program
        request.directory
      -- Whether it starts or not, the copy has been handed over and nothing else changed.
      have keeps (stage : Stage) :
          Generation.Keeps
            { site := (Site.start { site with workspace } program given request.directory).1
              temporary := copy
              listing
              limit := request.limit
              stage
              written := [] } site copy place (Text.encodeUtf8 text) := by
        refine ⟨rfl, ?_, begun.2.1, ?_⟩
        · rw [begun.1]
          exact written.same
        · intro other different _untouched
          rw [begun.1]
          exact written.elsewhere other different
      have copied : ∃ bytes, (Site.start { site with workspace } program given
          request.directory).1.workspace.node? place = some (.file bytes) := by
        rw [begun.1]
        exact ⟨_, written.here⟩
      cases started : Site.start { site with workspace } program given request.directory with
      | mk startedSite result =>
          rw [started] at begun keeps copied
          cases result with
          | ok process =>
              refine Or.inl ⟨keeps (.starting process), by simp, ?_, copied⟩
              intro other same
              rw [← Option.some.inj same]
              exact begun.2.2 process rfl
          | error failure =>
              exact Or.inr ((keeps (.ended (.failed failure))).leave copied leads
                fun generated returned => by cases returned)

/-- What is started is handed the temporary copy, told last and holding the text; and once a
generation is over, however it ended and whenever it was given up, the copy is gone, and what is
neither the copy nor written by the compiler is as before. A listing that is returned comes with the
path of the copy. If the copy can be written, the compiler is started or refuses to; and whoever
gives up is let go. Generating at once is such a generation, by `Generation.generate_ended`. -/
theorem copy_handed_over_and_removed (site : Site) (request : Request)
    (happenings : List Happening) (nonempty : request.command ≠ [])
    (encodable : request.text.toString? = some text) (source : request.source.Spelled)
    (directory : site.workspace.workingDirectory.Spelled) :
    let copy := SourceFile.temporaryCopy (site.workspace.absolute request.source)
    let generation := (Generation.begin site request).after happenings
    (∀ run ∈ generation.site.runs.drop site.runs.length,
      run.arguments.getLast? = some copy.toString ∧
        run.source = some (Text.encodeUtf8 text)) ∧
    (∀ workspace, site.workspace.writeBytes copy (Text.encodeUtf8 text) = .ok workspace →
      ∃ run, generation.site.runs = site.runs ++ [run]) ∧
    (∀ ending, generation.stage = .ended ending →
      (∀ generated, ending = .returned generated → generated.target = copy.toString) ∧
      generation.site.workspace.isFile copy ≠ .ok true ∧
      ∀ place, site.workspace.locate copy ≠ .ok place →
        (∀ path ∈ generation.written, site.workspace.locate path ≠ .ok place) →
        generation.site.workspace.node? place = site.workspace.node? place) ∧
    ∃ ending, (generation.after [.cancelled, .elapsed]).stage = .ended ending := by
  intro copy generation
  have spelled : copy.Spelled := (directory.join source).temporaryCopy
  cases wrote : site.workspace.writeBytes copy (Text.encodeUtf8 text) with
  | error failure =>
      have failed := Generation.begin_of_unwritten nonempty encodable wrote
      have stays : generation = Generation.begin site request :=
        Generation.after_of_ended failed.stage happenings
      refine ⟨?_, ?_, ?_, generation.exists_ended_of_cancel⟩
      · rw [stays, failed.site, List.drop_length]
        intro run member
        cases member
      · intro workspace written
        cases written
      · intro ending ended
        rw [stays, failed.stage, Stage.ended.injEq] at ended
        refine ⟨?_, ?_, ?_⟩
        · intro generated returned
          rw [returned] at ended
          cases ended
        · rw [stays, failed.site]
          exact Workspace.isFile_of_writeBytes_error wrote
        · intro place _different _untouched
          rw [stays, failed.site]
  | ok workspace =>
      obtain ⟨place, leads, written⟩ := Workspace.exists_writtenAt wrote
      have reached : generation.Underway site copy place (Text.encodeUtf8 text) ∨
          generation.Cleared site copy place (Text.encodeUtf8 text) := by
        rcases Generation.begin_of_written nonempty encodable spelled leads wrote written with
          underway | cleared
        · exact underway.after leads happenings
        · exact Or.inr (cleared.after happenings)
      have keeps : generation.Keeps site copy place (Text.encodeUtf8 text) := by
        rcases reached with underway | cleared
        · exact underway.toKeeps
        · exact cleared.toKeeps
      obtain ⟨run, runs, last, found⟩ := keeps.handed
      refine ⟨?_, fun _workspace _written => ⟨run, runs⟩, ?_, generation.exists_ended_of_cancel⟩
      · rw [runs, List.drop_left]
        intro other member
        rw [List.mem_singleton] at member
        rw [member]
        exact ⟨last, found⟩
      · intro ending ended
        rcases reached with underway | cleared
        · exact absurd ended (underway.waits ending)
        · obtain ⟨told, gone, others⟩ := cleared.leftBehind leads ended
          refine ⟨told, ?_, others⟩
          rw [gone]
          intro file
          cases file

end

/-- A compiler that never ends has written its listing when it is given up. The copy held the text
and is gone, and the source is untouched. -/
theorem copy_handed_over_and_removed_given_up :
    let site : Site :=
      { workspace := (Workspace.empty (Path.parse "/W")).addFile ["W", "a.c"] [0x61]
        runs := []
        behaviours := [.runs { duration := none, listing := none, output := none, status := 0 }] }
    let request : Request :=
      { command := ["cl", "/c", "a.c"]
        source := Path.parse "a.c"
        text := .ofString "é"
        directory := "/W"
        buildDirectory := Path.parse "."
        limit := none }
    let generation := (Generation.begin site request).after
      [.elapsed, .writes (Path.parse "/W/a.asme.asm") [0x3B], .cancelled, .elapsed]
    (∃ run, generation.site.runs = [run] ∧ run.arguments.getLast? = some "/W/.asme-a.c" ∧
      run.source = some [0xC3, 0xA9]) ∧
    generation.stage = .ended .cancelled ∧
    generation.site.workspace.isFile (Path.parse "/W/.asme-a.c") ≠ .ok true ∧
    generation.site.workspace.node? ["W", "a.c"] = some (.file [0x61]) := by
  intro site request generation
  have encodable : request.text.toString? = some "é" := by decide
  obtain ⟨handed, _written, after, _letGo⟩ := copy_handed_over_and_removed site request
    [.elapsed, .writes (Path.parse "/W/a.asme.asm") [0x3B], .cancelled, .elapsed] (by decide)
    encodable (Path.spelled_parse _) (Path.spelled_parse _)
  have copy : SourceFile.temporaryCopy (site.workspace.absolute request.source) =
      Path.parse "/W/.asme-a.c" := by decide
  have ended : generation.stage = .ended .cancelled := by decide +kernel
  have runs : ∃ run, generation.site.runs = [run] := List.length_eq_one_iff.mp (by decide +kernel)
  obtain ⟨_told, gone, others⟩ := after .cancelled ended
  rw [copy] at handed gone others
  refine ⟨?_, ended, gone, ?_⟩
  · obtain ⟨run, runs⟩ := runs
    refine ⟨run, runs, handed run ?_⟩
    change run ∈ generation.site.runs
    rw [runs]
    exact List.mem_singleton_self run
  · refine (others ["W", "a.c"] (by decide) ?_).trans (by decide)
    have written : generation.written = [Path.parse "/W/a.asme.asm"] := by decide +kernel
    intro path member
    rw [written, List.mem_singleton] at member
    rw [member]
    decide

end Compile

end ListingAtlas
