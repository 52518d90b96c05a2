import ListingAtlas.Compile.Stages

/-!
Generations that are carried out at once: if nothing but time passes, a generation goes just as when
it is carried out from its start to its end.
-/

namespace ListingAtlas.Compile

/-- A pending generation as one that waits for its compiler to end. -/
def Pending.underway (pending : Pending) (site : Site) (limit : Option Limit) : Generation :=
  { site
    temporary := pending.temporary
    listing := pending.listing
    limit
    stage := .running pending.watch
    written := [] }

/-- A generation is over, with what it left behind. -/
structure Generation.Ended (generation : Generation) (site : Site) (ending : Ending) : Prop where
  site : generation.site = site
  stage : generation.stage = .ended ending

namespace Generation

theorem leave_ended (generation : Generation) (ending : Ending) :
    (generation.leave ending).Ended (generation.site.removeFile generation.temporary) ending :=
  ⟨rfl, rfl⟩

theorem occur_of_ended {generation : Generation} {ending : Ending}
    (ended : generation.stage = .ended ending) (happening : Happening) :
    generation.occur happening = generation := by
  cases happening with
  | elapsed => simp only [occur, elapse, ended]
  | cancelled => simp only [occur, cancel, ended]
  | writes path content => simp only [occur, write, ended]

theorem after_of_ended {generation : Generation} {ending : Ending}
    (ended : generation.stage = .ended ending) (happenings : List Happening) :
    generation.after happenings = generation := by
  induction happenings with
  | nil => rfl
  | cons happening happenings ih =>
      change (generation.occur happening).after happenings = generation
      rw [occur_of_ended ended, ih]

/-- The compiler has started, or the generation is over. -/
theorem elapse_begin (site : Site) (request : Request) :
    match (Compile.begin site request).outcome with
    | .ok pending =>
        (begin site request).elapse =
          pending.underway (Compile.begin site request).site request.limit
    | .error failure =>
        (begin site request).elapse.Ended (Compile.begin site request).site (.failed failure) := by
  unfold Compile.begin begin
  cases request.command with
  | nil => exact ⟨rfl, rfl⟩
  | cons program arguments =>
      simp only
      cases writeCopy site.workspace
          (SourceFile.temporaryCopy (site.workspace.absolute request.source)) request.text with
      | mk workspace result =>
          cases result with
          | error failure => exact ⟨rfl, rfl⟩
          | ok _ =>
              simp only [startWatch]
              cases Site.start { site with workspace } program _ request.directory with
              | mk begun started =>
                  cases started with
                  | error reason => exact ⟨rfl, rfl⟩
                  | ok process =>
                      simp only [elapse]
                      cases process.watch request.limit with
                      | error failure => exact ⟨rfl, rfl⟩
                      | ok watch => rfl

theorem site_begin (site : Site) (request : Request) :
    (Compile.begin site request).site = (begin site request).elapse.site := by
  have begun := elapse_begin site request
  cases outcome : (Compile.begin site request).outcome with
  | error failure =>
      rw [outcome] at begun
      exact begun.site.symm
  | ok pending =>
      rw [outcome] at begun
      simp only at begun
      rw [begun]
      rfl

/-- What is known of the compiler is collected as from a pending compile. -/
theorem hear_collect (pending : Pending) (generation : Generation)
    (temporary : generation.temporary = pending.temporary)
    (listing : generation.listing = pending.listing) (outcome : Except Failure String) :
    (generation.hear outcome).Ended (pending.collect generation.site outcome).1
      (.ofOutcome (pending.collect generation.site outcome).2) := by
  unfold hear deliver Pending.collect
  rw [temporary, listing, ← temporary]
  cases outcome <;> exact leave_ended _ _

/-- The compiler ends, or its time is over and it is killed. -/
theorem conclude_ended (pending : Pending) (site : Site) (limit : Option Limit) :
    ((pending.underway site limit).after [.elapsed, .elapsed]).Ended (pending.conclude site).1
      (.ofOutcome (pending.conclude site).2) := by
  change ((pending.underway site limit).elapse.occur .elapsed).Ended _ _
  cases verdict : pending.watch.verdict with
  | expires failure =>
      simp only [Pending.underway, elapse, verdict, kill, Pending.conclude, Watch.conclude]
      exact leave_ended _ _
  | ends =>
      have concluded : (pending.underway site limit).elapse =
          (pending.underway site limit).conclude pending.watch := by
        simp only [Pending.underway, elapse, verdict]
      have collected : ((pending.underway site limit).conclude pending.watch).Ended
          (pending.conclude site).1 (.ofOutcome (pending.conclude site).2) := by
        simp only [conclude, finish, Pending.underway, Pending.conclude, Watch.conclude, verdict]
        cases site.finish pending.watch.process with
        | error failure => exact hear_collect pending _ rfl rfl _
        | ok finished => exact hear_collect pending _ rfl rfl _
      rw [concluded, occur_of_ended collected.stage]
      exact collected

/-- Undisturbed, a generation does what generating a listing at once does. -/
theorem generate_ended (site : Site) (request : Request) :
    ((begin site request).after [.elapsed, .elapsed, .elapsed]).Ended (generate site request).1
      (.ofOutcome (generate site request).2.2) := by
  have begun := elapse_begin site request
  change ((begin site request).elapse.after [.elapsed, .elapsed]).Ended _ _
  unfold generate
  cases outcome : (Compile.begin site request).outcome with
  | error failure =>
      rw [outcome] at begun
      simp only [outcome]
      rw [after_of_ended begun.stage]
      exact begun
  | ok pending =>
      rw [outcome] at begun
      simp only at begun
      simp only [outcome]
      rw [begun]
      exact conclude_ended pending _ request.limit

end Generation

end ListingAtlas.Compile
