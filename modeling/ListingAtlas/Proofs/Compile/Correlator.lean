import ListingAtlas.Compile.Correlator
import ListingAtlas.Proofs.Compile.Breaking

/-!
Correlating by compiling, as one step behind the other: a compiler whose listings cannot be read is
not even started, and any other one generates a listing that is then correlated. A generation that
succeeds leaves its listing, and no copy.
-/

namespace ListingAtlas.Compile

/-! ### Two steps -/

section

variable {environment : Environment} {site : Site} {request : Request}

theorem correlateRequest_of_refused {failure : Failure}
    (refused : checkFamily request.command = .error failure) :
    correlateRequest environment site request = (site, [], .error failure) := by
  unfold correlateRequest beginCorrelation
  rw [refused]

theorem correlateRequest_of_accepted (accepted : checkFamily request.command = .ok ()) :
    let generated := generate site request
    correlateRequest environment site request = (generated.1, generated.2.1,
      generated.2.2.bind (correlateGenerated environment request)) := by
  unfold correlateRequest beginCorrelation generate
  rw [accepted]
  simp only
  cases (begin site request).outcome with
  | error failure => rfl
  | ok pending => rfl

/-- A compiler that is of another family, or of none, is not started, and no file is touched. -/
theorem correlateRequest_of_other_family
    (other : Command.detectCompiler (request.command.headD "") ≠ .msvc) :
    ∃ failure, correlateRequest environment site request = (site, [], .error failure) ∧
      (failure = .unsupportedCompiler (request.command.headD "") ∨
        failure = .unknownCompiler (request.command.headD "")) := by
  cases family : Command.detectCompiler (request.command.headD "") with
  | msvc => exact absurd family other
  | gcc =>
      refine ⟨.unsupportedCompiler (request.command.headD ""), correlateRequest_of_refused ?_,
        Or.inl rfl⟩
      simp only [checkFamily, family]
  | unknown =>
      refine ⟨.unknownCompiler (request.command.headD ""), correlateRequest_of_refused ?_,
        Or.inr rfl⟩
      simp only [checkFamily, family]

end

/-! ### Generations that succeed -/

section

variable {site : Site} {request : Request}

theorem listing_of_begun {pending : Pending} (begun : (begin site request).outcome = .ok pending) :
    pending.listing = request.listingIn site.workspace := by
  unfold begin at begun
  cases command : request.command with
  | nil =>
      simp only [command] at begun
      cases begun
  | cons program arguments =>
      simp only [command] at begun
      split at begun
      · cases begun
      · split at begun
        · cases begun
        · rw [← Except.ok.inj begun]
          rfl

/-- What a generation that succeeds leaves: a listing that can be read, and no copy. -/
structure Leaves (request : Request) (before left : Workspace) (generated : Generated) : Prop where
  read : left.readListing (request.listingIn before) = .ok generated.text
  gone : ∃ place, left.locate (request.copyIn before) = .ok place ∧ left.node? place = none

theorem leaves_of_generate {generated : Generated}
    (succeeds : (generate site request).2.2 = .ok generated) :
    Leaves request site.workspace (generate site request).1.workspace generated := by
  unfold generate at succeeds ⊢
  simp only at succeeds ⊢
  cases begun : (begin site request).outcome with
  | error failure =>
      simp only [begun] at succeeds
      cases succeeds
  | ok pending =>
      simp only [begun] at succeeds ⊢
      obtain ⟨copied, text, place, _encodable, leads, held⟩ := begin_pending begun
      let reached := (begin site request).site
      let ended := (pending.watch.conclude reached).1
      have file : reached.workspace.node? place ≠ some .directory := by
        rw [held]
        exact fun same => by cases same
      have begins := sameDirectories_begin site request
      have same := begins.trans (pending.watch.sameDirectories_conclude reached)
      have still : ended.workspace.locate pending.temporary = .ok place := by
        rw [copied]
        exact Workspace.locate_of_same same leads
      have stillFile : ended.workspace.node? place ≠ some .directory := by
        rw [ne_eq, same.directories, ← begins.directories]
        exact file
      have gone := Workspace.node?_removeFile stillFile still
      rw [if_pos rfl] at gone
      have removed := same.trans (Workspace.sameDirectories_removeFile ended.workspace
        pending.temporary)
      unfold Pending.conclude Pending.collect at succeeds ⊢
      simp only at succeeds ⊢
      split at succeeds
      · cases succeeds
      · obtain ⟨text, read, same⟩ := map_eq_ok_iff.mp succeeds
        rw [listing_of_begun begun] at read
        rw [← same]
        exact ⟨read, place, Workspace.locate_of_same removed leads, gone⟩

/-- Where the copy and the listing can be written, and the compiler ends in time and well, its listing
is generated. -/
theorem generate_succeeds {characters : String} {script : Script} {listing : Text.Bytes}
    {ticks : Option Nat} {copied left : Workspace} (nonempty : request.command ≠ [])
    (encodable : request.text.toString? = some characters)
    (spelled : (request.listingIn site.workspace).Spelled)
    (copies : site.workspace.writeBytes (request.copyIn site.workspace)
      (Text.encodeUtf8 characters) = .ok copied)
    (starts : request.launchOn site = .ok script)
    (ends : foresee script.duration request.limit = .ok (.ends, ticks))
    (exits : script.status = 0) (listed : script.listing = some listing)
    (lists : copied.writeBytes (request.listingIn site.workspace)
      (writtenListing (request.argumentsIn site.workspace) listing) = .ok left) :
    (generate site request).2.2 = .ok
      { text := Workspace.textOf (writtenListing (request.argumentsIn site.workspace) listing)
        target := (request.copyIn site.workspace).toString
        listing := request.listingIn site.workspace } := by
  have chain : (generate site request).2.2 = _ := generate_eq nonempty encodable
  have leaves : request.leaves site.host site.workspace copied script = .ok left := by
    simp only [Request.leaves, listed, spelled.parse_toString, lists]
  obtain ⟨copyPlace, copyLeads, _copy⟩ := Workspace.exists_writtenAt copies
  obtain ⟨place, leads, written⟩ := Workspace.exists_writtenAt lists
  have same := (Workspace.sameDirectories_writeBytes copies).trans written.same
  -- Removing the copy does not remove the listing, which is called otherwise.
  have apart : copyPlace ≠ place := by
    rintro rfl
    exact copy_not_at_listing
      ((Workspace.locate_iff_of_same (Workspace.sameDirectories_writeBytes copies) _ _).mp leads)
      copyLeads
  have kept : (left.removeFile (request.copyIn site.workspace)).node? place =
      some (.file (writtenListing (request.argumentsIn site.workspace) listing)) := by
    rw [Workspace.node?_removeFile (by rw [written.here]; exact fun same => by cases same)
      (Workspace.locate_of_same same copyLeads), if_neg apart]
    exact written.here
  have found := Workspace.lookUp_eq_ok (Workspace.locate_of_same
    (written.same.trans (Workspace.sameDirectories_removeFile left _)) leads) kept
  rw [chain, copies]
  simp only [Except.bind, starts, ends, leaves]
  rw [Request.collects, exits,
    Workspace.readListing_of_lookUp (Workspace.holdsNull_of_writeBytes lists) found]
  rfl

end

end ListingAtlas.Compile
