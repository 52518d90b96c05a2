import ListingAtlas.Proofs.Compile.Workshop

/-!
What a compile may change: its temporary copy, and the listing that its compiler leaves. Copies of
different sources stand at different places, and no listing where the copy of a supported source is.
-/

namespace ListingAtlas

open Text (Bytes)

namespace Compile

open Workspace (SameDirectories)

/-! ### What a pending compile does to the files -/

/-- Deeds that reach a place neither leave it as it was nor by chance. -/
theorem node?_of_unreached {workspace : Workspace} {place : Place} {deeds : List Deed}
    (notDirectory : workspace.node? place ≠ some .directory)
    (elsewhere : ∀ deed ∈ deeds, workspace.locate deed.path ≠ .ok place) :
    (deeds.foldl Deed.perform workspace).node? place = workspace.node? place := by
  have none : deeds.filter (Deed.reaches workspace place) = [] := by
    rw [List.filter_eq_nil_iff]
    intro deed member reached
    exact elsewhere deed member ((Deed.reaches_iff deed).mp reached).1
  rw [Deed.node?_performAll notDirectory, none]
  rfl

/-- A generation for a request, and what its compiler was started with. -/
structure Generation.Copies (generation : Generation) (request : Request) (workspace : Workspace) :
    Prop where
  temporary : generation.temporary = request.copyIn workspace
  arguments : ∀ process, generation.stage.process? = some process →
    ∃ kept, process.arguments = Command.listingArguments kept
      (request.listingIn workspace).toString (request.copyIn workspace).toString

theorem writeCopy_ok {before after : Workspace} {copy : Path} {text : Text.EditorText}
    (copied : writeCopy before copy text = (after, .ok ())) :
    ∃ characters, text.toString? = some characters ∧
      before.writeBytes copy (Text.encodeUtf8 characters) = .ok after := by
  cases whole : text.loneHalves? with
  | some halves =>
      unfold writeCopy at copied
      simp only [whole] at copied
      split at copied <;> cases (Prod.mk.inj copied).2
  | none =>
      obtain ⟨characters, encodable⟩ := Text.EditorText.toString?_of_loneHalves? whole
      refine ⟨characters, encodable, ?_⟩
      rw [writeCopy_of_encodable encodable] at copied
      cases wrote : before.writeBytes copy (Text.encodeUtf8 characters) with
      | error failure =>
          rw [wrote] at copied
          cases (Prod.mk.inj copied).2
      | ok written =>
          rw [wrote] at copied
          rw [(Prod.mk.inj copied).1]

/-- The beginning of a generation changes at most the copy. -/
theorem path_of_opening_deed {site : Site} {request : Request} {index : Nat} {deed : Deed}
    (member : deed ∈ openingDeeds site request index) :
    deed.path = request.copyIn site.workspace := by
  unfold openingDeeds at member
  split at member
  · cases member
  · rcases List.mem_cons.mp member with rfl | later
    · rfl
    · split at later
      · rw [List.mem_singleton.mp later]
        rfl
      · cases later

theorem Generation.begin_stage (site : Site) (request : Request) :
    (∃ process, (begin site request).stage = .starting process) ∨
      ∃ ending, (begin site request).stage = .ended ending := by
  unfold begin
  cases request.command with
  | nil => exact Or.inr ⟨_, rfl⟩
  | cons program arguments =>
      simp only
      split
      · exact Or.inr ⟨_, rfl⟩
      · split
        · exact Or.inr ⟨_, rfl⟩
        · exact Or.inl ⟨_, rfl⟩

/-- If it is not over at once, its compiler is told of the copy, and the copy holds the text. -/
theorem Generation.begin_starting {site : Site} {request : Request} {process : Process}
    (starting : (begin site request).stage = .starting process) :
    (∃ kept, process.arguments = Command.listingArguments kept
        (request.listingIn site.workspace).toString (request.copyIn site.workspace).toString) ∧
      ∃ text place, request.text.toString? = some text ∧
        site.workspace.locate (request.copyIn site.workspace) = .ok place ∧
        (begin site request).site.workspace.node? place =
          some (.file (Text.encodeUtf8 text)) := by
  unfold begin at starting ⊢
  cases command : request.command with
  | nil =>
      simp only [command] at starting
      cases starting
  | cons program arguments =>
      simp only [command] at starting ⊢
      cases copied : writeCopy site.workspace
          (SourceFile.temporaryCopy (site.workspace.absolute request.source)) request.text with
      | mk workspace outcome =>
          rw [copied] at starting
          cases outcome with
          | error failure => cases starting
          | ok _ =>
              obtain ⟨text, encodable, wrote⟩ := writeCopy_ok copied
              obtain ⟨place, leads, written⟩ := Workspace.exists_writtenAt wrote
              simp only [Site.start] at starting ⊢
              cases launched : Site.launch { site with workspace } program _ request.directory with
              | error failure =>
                  rw [launched] at starting
                  cases starting
              | ok script =>
                  rw [launched] at starting
                  cases starting
                  exact ⟨⟨arguments, rfl⟩, text, place, encodable, leads, written.here⟩

theorem Generation.begin_copies (site : Site) (request : Request) :
    (begin site request).Copies request site.workspace where
  temporary := (begin_paths site request).1
  arguments := by
    intro process works
    rcases begin_stage site request with ⟨other, starting⟩ | ⟨ending, ended⟩
    · rw [starting] at works
      cases works
      exact (begin_starting starting).1
    · rw [ended] at works
      cases works

/-- A compile that is under way has its copy. -/
theorem begin_pending {site : Site} {request : Request} {pending : Pending}
    (begun : (begin site request).outcome = .ok pending) :
    pending.temporary = request.copyIn site.workspace ∧
      ∃ text place, request.text.toString? = some text ∧
        site.workspace.locate (request.copyIn site.workspace) = .ok place ∧
        (begin site request).site.workspace.node? place =
          some (.file (Text.encodeUtf8 text)) := by
  have elapsed := Generation.elapse_begin site request
  rw [begun] at elapsed
  simp only at elapsed
  rcases Generation.begin_stage site request with ⟨process, starting⟩ | ⟨ending, ended⟩
  · cases watched : process.watch (Generation.begin site request).limit with
    | error failure =>
        have stage := congrArg Generation.stage elapsed
        simp only [Generation.elapse, starting, watched] at stage
        cases stage
    | ok watch =>
        obtain ⟨_arguments, text, place, encodable, leads, held⟩ :=
          Generation.begin_starting starting
        simp only [Generation.elapse, starting, watched] at elapsed
        have temporary := congrArg Generation.temporary elapsed
        have same := congrArg Generation.site elapsed
        simp only [Pending.underway] at temporary same
        rw [← temporary, ← same]
        exact ⟨(Generation.begin_copies site request).temporary, text, place, encodable, leads,
          held⟩
  · simp only [Generation.elapse, ended] at elapsed
    rw [elapsed] at ended
    cases ended

/-! ### What a generation does on its way -/

/-- What a generation may have gone on to: it may have let its compiler leave a listing, and it has
its copy still unless it is over. -/
structure Generation.GoesOn (generation next : Generation) : Prop where
  temporary : next.temporary = generation.temporary
  process : ∀ process, next.stage.process? = some process →
    generation.stage.process? = some process
  ended : (∃ ending, generation.stage = .ended ending) → ∃ ending, next.stage = .ended ending
  deeds : ∃ deeds : List Deed,
    next.site.workspace = deeds.foldl Deed.perform generation.site.workspace ∧
      ∀ deed ∈ deeds,
        (∃ process, generation.stage.process? = some process ∧ deed ∈ process.deeds 0) ∨
          deed.path = generation.temporary ∧ ∃ ending, next.stage = .ended ending

namespace Generation

variable {generation next last : Generation}

theorem GoesOn.refl (generation : Generation) : generation.GoesOn generation :=
  ⟨rfl, fun _ works => works, id, [], rfl, fun deed member => by cases member⟩

theorem GoesOn.trans (first : generation.GoesOn next) (second : next.GoesOn last) :
    generation.GoesOn last := by
  obtain ⟨some, done, mine⟩ := first.deeds
  obtain ⟨more, rest, theirs⟩ := second.deeds
  refine ⟨second.temporary.trans first.temporary,
    fun process works => first.process process (second.process process works),
    fun ended => second.ended (first.ended ended), some ++ more, ?_, ?_⟩
  · rw [rest, done, List.foldl_append]
  · intro deed member
    rcases List.mem_append.mp member with early | late
    · exact (mine deed early).imp_right fun removed => ⟨removed.1, second.ended removed.2⟩
    · rcases theirs deed late with ⟨process, works, own⟩ | ⟨copy, ended⟩
      · exact Or.inl ⟨process, first.process process works, own⟩
      · exact Or.inr ⟨copy.trans first.temporary, ended⟩

theorem goesOn_leave (generation : Generation) (ending : Ending) :
    generation.GoesOn (generation.leave ending) := by
  refine ⟨rfl, fun process works => (by cases works), fun _ => ⟨ending, rfl⟩,
    [removal generation.temporary 0], rfl, ?_⟩
  intro deed member
  rw [List.mem_singleton.mp member]
  exact Or.inr ⟨rfl, ending, rfl⟩

theorem goesOn_hear (generation : Generation) (outcome : Except Failure String) :
    generation.GoesOn (generation.hear outcome) := by
  cases outcome with
  | error failure => exact generation.goesOn_leave _
  | ok output => exact generation.goesOn_leave _

theorem goesOn_finish {process : Process} (works : generation.stage.process? = some process) :
    generation.GoesOn (generation.finish process).1 := by
  refine ⟨(generation.finish_paths process).1, ?_, ?_, process.deeds 0,
    generation.finish_workspace process 0, fun deed member => Or.inl ⟨process, works, member⟩⟩
  · intro other
    rw [finish_stage]
    exact id
  · rw [finish_stage]
    exact id

theorem goesOn_kill (process : Process) (failure : Option Failure)
    (waits : ∀ ending, generation.stage ≠ .ended ending) :
    generation.GoesOn (generation.kill process failure) :=
  ⟨rfl, fun other works => (by cases works), fun ⟨ending, ended⟩ => absurd ended (waits ending),
    [], rfl, fun deed member => by cases member⟩

theorem goesOn_elapse (generation : Generation) : generation.GoesOn generation.elapse := by
  unfold elapse
  cases stage : generation.stage with
  | starting process =>
      simp only
      cases watched : process.watch generation.limit with
      | error failure => exact generation.goesOn_leave _
      | ok watch =>
          refine ⟨rfl, ?_, ?_, [], rfl, fun deed member => by cases member⟩
          · intro other works
            rw [stage, ← works]
            exact congrArg some (process_of_watch watched).symm
          · rintro ⟨ending, ended⟩
            rw [stage] at ended
            cases ended
  | running watch =>
      have works : generation.stage.process? = some watch.process := by
        rw [stage]
        rfl
      simp only
      cases watch.verdict with
      | expires failure => exact goesOn_kill watch.process _ fun ending => by simp [stage]
      | ends => exact (goesOn_finish works).trans (goesOn_hear _ _)
  | reaping process failure => cases failure <;> exact generation.goesOn_leave _
  | ended ending => exact .refl generation

theorem goesOn_cancel (generation : Generation) : generation.GoesOn generation.cancel := by
  unfold cancel
  cases stage : generation.stage with
  | starting process => exact goesOn_kill process none fun ending => by simp [stage]
  | running watch => exact goesOn_kill watch.process none fun ending => by simp [stage]
  | reaping process failure => exact generation.goesOn_leave _
  | ended ending => exact .refl generation

end Generation

/-! ### Sources and their places -/

/-- The directory that a source stands in, and its name. -/
def sourcePlace? (workspace : Workspace) (source : Path) : Option Place :=
  let source := workspace.absolute source
  match workspace.follow [] source.parent.parts with
  | .ok directory => some (directory ++ [source.name])
  | .error _ => none

section

variable {workspace first world : Workspace} {request another : Request} {place : Place}

theorem absolute_absolute (rooted : workspace.workingDirectory.isAbsolute = true) (path : Path) :
    (workspace.absolute path).isAbsolute = true := by
  unfold Workspace.absolute Path.join
  split
  · assumption
  · exact rooted

/-- The copy stands where its source does, with a mark in front of its name. -/
theorem sourcePlace?_of_copy (rooted : workspace.workingDirectory.isAbsolute = true)
    (leads : workspace.locate (request.copyIn workspace) = .ok place) :
    ∃ directory, sourcePlace? workspace request.source =
        some (directory ++ [(workspace.absolute request.source).name]) ∧
      place = directory ++
        [SourceFile.temporaryMark ++ (workspace.absolute request.source).name] := by
  have itself : workspace.absolute (request.copyIn workspace) = request.copyIn workspace := by
    have root : (request.copyIn workspace).isAbsolute = true :=
      absolute_absolute rooted request.source
    unfold Workspace.absolute Path.join
    rw [if_pos root]
  unfold Workspace.locate at leads
  rw [itself] at leads
  split at leads
  · cases leads
  · obtain ⟨directory, above, whole⟩ :=
      Workspace.follow_concat (SourceFile.copy_ne_upward _) leads
    refine ⟨directory, ?_, whole⟩
    unfold sourcePlace?
    simp only
    rw [show workspace.follow [] (workspace.absolute request.source).parent.parts =
      .ok directory from above]

/-- Sources at different places have copies at different places. -/
theorem copies_apart (rooted : workspace.workingDirectory.isAbsolute = true)
    (apart : ∀ place, sourcePlace? workspace request.source = some place →
      sourcePlace? workspace another.source ≠ some place)
    (leads : workspace.locate (request.copyIn workspace) = .ok place) :
    workspace.locate (another.copyIn workspace) ≠ .ok place := by
  intro leadsToo
  obtain ⟨directory, source, whole⟩ := sourcePlace?_of_copy rooted leads
  obtain ⟨other, sourceToo, same⟩ := sourcePlace?_of_copy rooted leadsToo
  rw [whole] at same
  obtain ⟨directories, names⟩ := List.append_inj' same rfl
  have names := List.singleton_inj.mp names
  have equal : (workspace.absolute request.source).name =
      (workspace.absolute another.source).name := by
    have characters := congrArg String.toList names
    rw [String.toList_append, String.toList_append] at characters
    exact String.toList_inj.mp (List.append_cancel_left characters)
  refine apart _ source ?_
  rw [sourceToo, directories, equal]

theorem absolute_supported {source : Path} (supported : SourceFile.isSupported source = true) :
    SourceFile.isSupported (workspace.absolute source) = true := by
  unfold Workspace.absolute Path.join
  split
  · exact supported
  · cases named : source.parts.getLast? with
    | none =>
        unfold SourceFile.isSupported Path.suffix Path.name at supported
        rw [named] at supported
        exact absurd supported (by decide)
    | some name =>
        unfold SourceFile.isSupported Path.suffix Path.name at supported ⊢
        rw [named] at supported
        rw [List.getLast?_append, named]
        exact supported

/-- No listing is where the copy of a supported source is. -/
theorem listing_elsewhere (supported : SourceFile.isSupported request.source = true)
    (leads : workspace.locate (request.copyIn workspace) = .ok place) :
    workspace.locate (another.listingIn workspace) ≠ .ok place := by
  intro listing
  have called := Workspace.getLast?_locate (SourceFile.getLast?_temporaryCopy _)
    (SourceFile.copy_ne_upward _) leads
  have calledToo := Workspace.getLast?_locate (SourceFile.getLast?_listing _ _)
    (SourceFile.listing_ne_upward _) listing
  rw [called, Option.some.injEq] at calledToo
  exact SourceFile.copy_ne_listing_of_supported (absolute_supported supported) _ calledToo

theorem copyIn_of_same (same : SameDirectories first world) (request : Request) :
    request.copyIn world = request.copyIn first := by
  unfold Request.copyIn Workspace.absolute
  rw [same.workingDirectory]

theorem listingIn_of_same (same : SameDirectories first world) (request : Request) :
    request.listingIn world = request.listingIn first := by
  unfold Request.listingIn Workspace.absolute
  rw [same.workingDirectory]

theorem Generation.Copies.of_same {generation : Generation} (same : SameDirectories first world)
    (copies : generation.Copies request world) : generation.Copies request first where
  temporary := by
    rw [← copyIn_of_same same]
    exact copies.temporary
  arguments := by
    rw [← copyIn_of_same same, ← listingIn_of_same same]
    exact copies.arguments

theorem Generation.Copies.path_of_process_deed {generation : Generation}
    (copies : generation.Copies request workspace)
    (spelled : (request.listingIn workspace).Spelled) {process : Process}
    (works : generation.stage.process? = some process) {deed : Deed}
    (member : deed ∈ process.deeds 0) : deed.path = request.listingIn workspace := by
  obtain ⟨kept, arguments⟩ := copies.arguments process works
  unfold Process.deeds at member
  rw [arguments, listingPath?_listingArguments] at member
  split at member
  · rename_i listing path _some same
    rw [List.mem_singleton.mp member, ← Option.some.inj same]
    exact spelled.parse_toString
  · cases member

end

end Compile

end ListingAtlas
