import ListingAtlas.CommandLine.Run
import ListingAtlas.Proofs.OutputName.Search

/-!
Saves under one name, one after another. Each writes a file where nothing was, and together they
use up the free candidates without a gap.
-/

namespace ListingAtlas.OutputName

open Text (Bytes)

/-- Save a content under a name that is free, and tell the path. -/
def save (workspace : Workspace) (directory : Path) (name : OutputName) (content : Bytes) :
    Except Failure (Workspace × Path) := do
  let path ← choose workspace directory name
  let written ← workspace.writeBytes path content
  return (written, path)

/-- This is how views are saved. -/
theorem saveView_eq (workspace : Workspace) (preparation : CommandLine.Preparation)
    (correlation : Correlation) (view : View) :
    CommandLine.saveView workspace preparation correlation view =
      save workspace preparation.outputDirectory ⟨preparation.source.stem, view.suffix⟩
        (Text.encodeUtf8 (view.content correlation)) :=
  rfl

/-- Save contents one after another, until one cannot be saved; with the paths of those that are. -/
def saveInTurn (directory : Path) (name : OutputName) :
    Workspace → List Bytes → Workspace × List Path
  | workspace, [] => (workspace, [])
  | workspace, content :: contents =>
      match save workspace directory name content with
      | .error _ => (workspace, [])
      | .ok (written, path) =>
          let rest := saveInTurn directory name written contents
          (rest.1, path :: rest.2)

theorem saveInTurn_cons (directory : Path) (name : OutputName) (workspace : Workspace)
    (content : Bytes) (contents : List Bytes) :
    saveInTurn directory name workspace (content :: contents) =
      match save workspace directory name content with
      | .error _ => (workspace, [])
      | .ok (written, path) =>
          ((saveInTurn directory name written contents).1,
            path :: (saveInTurn directory name written contents).2) :=
  rfl

variable {name : OutputName} {workspace written last : Workspace} {directory : Path}
  {place other : Place} {content : Bytes} {contents : List Bytes} {tries another : Nat}

/-! ### Candidates and places -/

/-- Where a candidate leads, from where the directory of all candidates is. -/
theorem place_of_locate (leads : workspace.locate (name.path directory tries) = .ok place) :
    ∃ start, workspace.follow [] (workspace.absolute (name.home directory)).parts = .ok start ∧
      (name.Proper tries ∧
          place = start ++ String.ofList (name.entry tries) :: Path.namesIn name.back ∨
        ¬ name.Proper tries ∧
          place.length ≤ start.length + (Path.namesIn name.back).length) := by
  have followed := Workspace.follow_of_locate leads
  rw [path_eq, Workspace.parts_absolute_below, Workspace.follow_append, bind_eq_ok_iff] at followed
  obtain ⟨start, before, behind⟩ := followed
  refine ⟨start, before, ?_⟩
  by_cases proper : name.Proper tries
  · rw [proper.namesIn, List.singleton_append] at behind
    have down : ".." ∉ String.ofList (name.entry tries) :: Path.namesIn name.back := by
      rw [List.mem_cons, not_or]
      exact ⟨proper.downward.symm, name.upward_not_mem_back⟩
    exact Or.inl ⟨proper, Workspace.follow_down down behind⟩
  · -- No name, or a step upward: no place is reached that is as far down as those with a mark.
    refine Or.inr ⟨proper, ?_⟩
    have aside : name.entry tries = [] ∨ name.entry tries = ['.'] ∨ name.entry tries = ['.', '.'] := by
      simpa only [Proper, not_and_or, not_not] using proper
    have reached : ∃ near : Place, near.length ≤ start.length ∧
        workspace.follow near (Path.namesIn name.back) = .ok place := by
      rcases aside with none | same | upward
      · rw [none, Path.namesIn_nil, List.nil_append] at behind
        exact ⟨start, Nat.le_refl _, behind⟩
      · rw [same, Path.namesIn_here, List.nil_append] at behind
        exact ⟨start, Nat.le_refl _, behind⟩
      · rw [upward, Path.namesIn_upward, List.singleton_append] at behind
        exact ⟨start.dropLast, start.dropLast_sublist.length_le, Workspace.follow_upward behind⟩
    obtain ⟨near, higher, down⟩ := reached
    rw [Workspace.follow_down name.upward_not_mem_back down, List.length_append]
    omega

/-- Different candidates lead to different places. -/
theorem locate_injective (leads : workspace.locate (name.path directory tries) = .ok place)
    (leadsToo : workspace.locate (name.path directory another) = .ok place) : tries = another := by
  obtain ⟨start, before, reached⟩ := place_of_locate leads
  obtain ⟨startToo, beforeToo, reachedToo⟩ := place_of_locate leadsToo
  rw [before, Except.ok.injEq] at beforeToo
  subst beforeToo
  rcases reached with ⟨proper, rfl⟩ | ⟨improper, short⟩
  · rcases reachedToo with ⟨_properToo, same⟩ | ⟨_improper, short⟩
    · have names := (List.cons.inj (List.append_cancel_left same)).1
      exact entry_injective (String.ofList_injective names)
    · rw [List.length_append, List.length_cons] at short
      omega
  · rcases reachedToo with ⟨_proper, rfl⟩ | ⟨improperToo, _short⟩
    · rw [List.length_append, List.length_cons] at short
      omega
    · have first {number : Nat} (aside : ¬ name.Proper number) : number = 0 := by
        cases number with
        | zero => rfl
        | succ further => exact absurd (name.proper_succ further) aside
      rw [first improper, first improperToo]

/-! ### One save -/

/-- A content has been saved at a place of its own, where a candidate leads. -/
structure SavedAt (workspace : Workspace) (directory : Path) (name : OutputName) (content : Bytes)
    (tries : Nat) (place : Place) (written : Workspace) : Prop where
  finds : name.Finds workspace directory tries
  noNull : Workspace.holdsNull (name.path directory tries) = false
  leads : workspace.locate (name.path directory tries) = .ok place
  nothing : workspace.node? place = none
  wrote : Workspace.WrittenAt workspace place content written

theorem exists_savedAt {path : Path}
    (saved : save workspace directory name content = .ok (written, path)) :
    ∃ tries place, path = name.path directory tries ∧
      SavedAt workspace directory name content tries place written := by
  obtain ⟨tries, finds, _bound⟩ := exists_finds name workspace directory
  obtain ⟨chosen, chooses, rest⟩ := bind_eq_ok_iff.mp saved
  obtain ⟨changed, wrote, same⟩ := bind_eq_ok_iff.mp rest
  obtain ⟨rfl, rfl⟩ := Prod.mk.inj (Except.ok.inj same)
  rw [finds.choose_eq, map_eq_ok_iff] at chooses
  obtain ⟨taken, told, rfl⟩ := chooses
  obtain ⟨place, leads, writtenAt⟩ := Workspace.exists_writtenAt wrote
  have noNull := Workspace.holdsNull_of_writeBytes wrote
  refine ⟨tries, place, rfl, finds, noNull, leads, ?_, writtenAt⟩
  rw [← Option.not_isSome_iff_eq_none]
  exact fun some => finds.ends (Workspace.holds_eq_ok_true_iff.mpr ⟨noNull, place, leads, some⟩)

namespace SavedAt

variable (saved : SavedAt workspace directory name content tries place written)

include saved

theorem vacant : workspace.Vacant (name.path directory tries) :=
  ⟨saved.noNull, place, saved.leads, saved.nothing⟩

theorem keeps : Workspace.Keeps workspace written :=
  saved.wrote.keeps saved.nothing

theorem lookUp : written.lookUp (name.path directory tries) = .ok (.file content) :=
  Workspace.lookUp_eq_ok (Workspace.locate_of_same saved.wrote.same saved.leads) saved.wrote.here

theorem taken : written.holds (name.path directory tries) = .ok true := by
  refine Workspace.holds_eq_ok_true_iff.mpr
    ⟨saved.noNull, place, Workspace.locate_of_same saved.wrote.same saved.leads, ?_⟩
  rw [saved.wrote.here]
  rfl

/-- Just the candidate that is used is taken from then on. -/
theorem taken_iff : written.holds (name.path directory another) = .ok true ↔
    another = tries ∨ workspace.holds (name.path directory another) = .ok true := by
  constructor
  · intro told
    obtain ⟨noNull, elsewhere, leads, there⟩ := Workspace.holds_eq_ok_true_iff.mp told
    have before := Workspace.locate_of_same saved.wrote.same.symm leads
    by_cases same : elsewhere = place
    · rw [same] at before
      exact Or.inl (locate_injective before saved.leads)
    · rw [saved.wrote.elsewhere elsewhere same] at there
      exact Or.inr (Workspace.holds_eq_ok_true_iff.mpr ⟨noNull, elsewhere, before, there⟩)
  · rintro (rfl | there)
    · exact saved.taken
    · exact saved.keeps.holds there

end SavedAt

/-- What cannot be saved under a name is not refused for its content. -/
theorem save_eq_error {failure : Failure}
    (refused : save workspace directory name content = .error failure) (other : Bytes) :
    save workspace directory name other = .error failure := by
  unfold save at refused ⊢
  rcases bind_eq_error_iff.mp refused with unchosen | ⟨path, chosen, unwritten⟩
  · rw [unchosen]
    rfl
  · rcases bind_eq_error_iff.mp unwritten with fails | ⟨_changed, _wrote, impossible⟩
    · have still := Workspace.writeBytes_eq_error fails other
      exact bind_eq_error_iff.mpr (Or.inr ⟨path, chosen, bind_eq_error_iff.mpr (Or.inl still)⟩)
    · cases impossible

/-! ### One save after another -/

/-- Contents have been saved one after another, the first of them with the candidates of rising
numbers. -/
structure InTurn (workspace : Workspace) (directory : Path) (name : OutputName)
    (contents : List Bytes) (trials : List Nat) (last : Workspace) : Prop where
  rising : trials.Pairwise (· < ·)
  vacant : ∀ tries ∈ trials, workspace.Vacant (name.path directory tries)
  gapless : ∀ tries ∈ trials, ∀ earlier, earlier < tries →
    earlier ∈ trials ∨ workspace.holds (name.path directory earlier) = .ok true
  keeps : Workspace.Keeps workspace last
  contents : List.Forall₂ (fun content tries =>
    last.lookUp (name.path directory tries) = .ok (.file content)) (contents.take trials.length) trials

theorem InTurn.nothing (workspace : Workspace) (directory : Path) (name : OutputName)
    (contents : List Bytes) : InTurn workspace directory name contents [] workspace :=
  ⟨.nil, by simp, by simp, .refl workspace, .nil⟩

theorem InTurn.cons {trials : List Nat}
    (saved : SavedAt workspace directory name content tries place written)
    (rest : InTurn written directory name contents trials last) :
    InTurn workspace directory name (content :: contents) (tries :: trials) last where
  rising := by
    refine List.pairwise_cons.mpr ⟨fun later among => ?_, rest.rising⟩
    by_contra before
    have taken : written.holds (name.path directory later) = .ok true := by
      rcases Nat.eq_or_lt_of_le (Nat.le_of_not_lt before) with same | earlier
      · exact saved.taken_iff.mpr (Or.inl same)
      · exact saved.taken_iff.mpr (Or.inr (saved.finds.taken later earlier))
    rw [(rest.vacant later among).holds] at taken
    cases taken
  vacant := List.forall_mem_cons.mpr
    ⟨saved.vacant, fun later among => saved.keeps.vacant (rest.vacant later among)⟩
  gapless := by
    refine List.forall_mem_cons.mpr ⟨fun earlier before => ?_, fun later among earlier before => ?_⟩
    · exact Or.inr (saved.finds.taken earlier before)
    · rcases rest.gapless later among earlier before with used | taken
      · exact Or.inl (List.mem_cons_of_mem _ used)
      · rcases saved.taken_iff.mp taken with rfl | there
        · exact Or.inl List.mem_cons_self
        · exact Or.inr there
  keeps := saved.keeps.trans rest.keeps
  contents := .cons (rest.keeps.lookUp saved.lookUp) rest.contents

/-- All contents are saved in turn, or no more can be saved under the name. -/
theorem exists_inTurn (workspace : Workspace) (directory : Path) (name : OutputName)
    (contents : List Bytes) :
    ∃ trials, InTurn workspace directory name contents trials
        (saveInTurn directory name workspace contents).1 ∧
      (saveInTurn directory name workspace contents).2 = trials.map (name.path directory) ∧
      (trials.length = contents.length ∨ ∃ failure, ∀ content,
        save (saveInTurn directory name workspace contents).1 directory name content =
          .error failure) := by
  induction contents generalizing workspace with
  | nil => exact ⟨[], .nothing .., rfl, Or.inl rfl⟩
  | cons content contents ih =>
      cases outcome : save workspace directory name content with
      | error failure =>
          have stops : saveInTurn directory name workspace (content :: contents) =
              (workspace, []) := by
            rw [saveInTurn_cons, outcome]
          rw [stops]
          exact ⟨[], .nothing .., rfl, Or.inr ⟨failure, save_eq_error outcome⟩⟩
      | ok result =>
          obtain ⟨written, path⟩ := result
          have goesOn : saveInTurn directory name workspace (content :: contents) =
              ((saveInTurn directory name written contents).1,
                path :: (saveInTurn directory name written contents).2) := by
            rw [saveInTurn_cons, outcome]
          obtain ⟨tries, place, rfl, saved⟩ := exists_savedAt outcome
          obtain ⟨trials, rest, paths, ended⟩ := ih written
          rw [goesOn, paths]
          refine ⟨tries :: trials, .cons saved rest, rfl, ?_⟩
          exact ended.imp (congrArg Nat.succ) id

/-! ### The first free name -/

/-- The first candidate that is not taken is chosen, unless it is too long to be asked for, after a
look at each up to this one. There are at most as many before it as names in the directory where
they stand, and one more where the first of them is no such name. So saves under one name take
nothing away, and leave no candidate out. -/
theorem choose_first_free (workspace : Workspace) (directory : Path) (name : OutputName) :
    Parted name.suffix (splitSuffix name.suffix).1 (splitSuffix name.suffix).2 ∧
      (∃ tries,
        (∀ earlier, earlier < tries →
          workspace.holds (name.path directory earlier) = .ok true) ∧
        (workspace.holds (name.path directory tries) = .ok false ∧
            choose workspace directory name = .ok (name.path directory tries) ∨
          workspace.TooLong (name.path directory tries) ∧
            choose workspace directory name =
              .error (.unusablePath .nameTooLong (name.path directory tries).toString)) ∧
        (∀ looks, tries ≤ looks → search (noting workspace) looks directory name [] =
          (choose workspace directory name,
            (List.range (tries + 1)).map (name.path directory))) ∧
        tries ≤ (workspace.entriesOf (name.home directory)).length + name.aside) ∧
      ('/' ∉ name.stem.toList → '/' ∉ name.suffix.toList → name.home directory = directory ∧
        name.aside = if name.plain ∈ ["", ".", ".."] then 1 else 0) ∧
      ∀ contents, ∃ trials,
        InTurn workspace directory name contents trials
          (saveInTurn directory name workspace contents).1 ∧
        (saveInTurn directory name workspace contents).2 = trials.map (name.path directory) ∧
        (trials.length = contents.length ∨ ∃ failure, ∀ content,
          save (saveInTurn directory name workspace contents).1 directory name content =
            .error failure) := by
  obtain ⟨tries, finds, bound⟩ := exists_finds name workspace directory
  refine ⟨parted_splitSuffix name.suffix, ⟨tries, finds.taken, ?_, ?_, bound⟩, ?_,
    exists_inTurn workspace directory name⟩
  · rw [finds.choose_eq]
    match told : workspace.holds (name.path directory tries) with
    | .ok true => exact absurd told finds.ends
    | .ok false => exact Or.inl ⟨rfl, rfl⟩
    | .error failure =>
        obtain ⟨long, rfl⟩ := Workspace.holds_eq_error_iff.mp told
        exact Or.inr ⟨long, rfl⟩
  · intro looks enough
    rw [finds.choose_eq]
    exact finds.search_noting enough
  · exact fun stem suffix =>
      ⟨home_of_no_separator stem suffix directory, aside_of_no_separator stem suffix⟩

/-! ### A shelf -/

/-- A directory with a first and a second file of a name. -/
def shelf : Workspace :=
  ((Workspace.empty (Path.parse "/W")).addFile ["W", "main-listing.json"] []).addFile
    ["W", "main-listing-2.json"] []

def shelfName : OutputName := { stem := "main", suffix := "-listing.json" }

/-- The third file goes under the third number, and the fourth under the fourth. -/
theorem choose_first_free_third :
    choose shelf (Path.parse "") shelfName = .ok (Path.parse "main-listing-3.json") ∧
      (search (noting shelf) 3 (Path.parse "") shelfName []).2 =
        [Path.parse "main-listing.json", Path.parse "main-listing-2.json",
          Path.parse "main-listing-3.json"] ∧
      shelfName.home (Path.parse "") = Path.parse "" ∧ shelfName.aside = 0 ∧
      ∃ trials, InTurn shelf (Path.parse "") shelfName [[1], [2]] trials
          (saveInTurn (Path.parse "") shelfName shelf [[1], [2]]).1 ∧
        trials.map (shelfName.path (Path.parse "")) =
          [Path.parse "main-listing-3.json", Path.parse "main-listing-4.json"] := by
  obtain ⟨_parted, ⟨tries, _taken, outcome, looked, bound⟩, within, saves⟩ :=
    choose_first_free shelf (Path.parse "") shelfName
  have first : shelf.holds (shelfName.path (Path.parse "") 0) = .ok true := by
    decide +kernel
  have second : shelf.holds (shelfName.path (Path.parse "") 1) = .ok true := by
    decide +kernel
  have most : (shelf.entriesOf (shelfName.home (Path.parse ""))).length + shelfName.aside = 2 := by
    decide +kernel
  have notTaken : shelf.holds (shelfName.path (Path.parse "") tries) ≠ .ok true := by
    rcases outcome with ⟨told, _chosen⟩ | ⟨long, _refused⟩
    · rw [told]
      decide
    · rw [Workspace.holds_eq_error_iff.mpr ⟨long, rfl⟩]
      exact nofun
  have third : tries = 2 := by
    have notFirst : tries ≠ 0 := fun same => notTaken (same ▸ first)
    have notSecond : tries ≠ 1 := fun same => notTaken (same ▸ second)
    omega
  subst third
  have spelled : (List.range 3).map (shelfName.path (Path.parse "")) =
      [Path.parse "main-listing.json", Path.parse "main-listing-2.json",
        Path.parse "main-listing-3.json"] := by
    decide +kernel
  have last : shelfName.path (Path.parse "") 2 = Path.parse "main-listing-3.json" := by
    decide +kernel
  have short : shelf.locate (Path.parse "main-listing-3.json") ≠ .error .nameTooLong := by
    decide +kernel
  have used : (saveInTurn (Path.parse "") shelfName shelf [[1], [2]]).2 =
      [Path.parse "main-listing-3.json", Path.parse "main-listing-4.json"] := by
    decide +kernel
  rw [last] at outcome
  have chosen := outcome.resolve_right fun long => short long.1.2
  obtain ⟨home, aside⟩ := within (by decide) (by decide)
  obtain ⟨trials, inTurn, paths, _all⟩ := saves [[1], [2]]
  rw [used] at paths
  refine ⟨chosen.2, ?_, home, aside, trials, inTurn, paths.symm⟩
  rw [looked 3 (by decide)]
  exact spelled

/-! ### Shelves without a free name -/

/-- A name that leaves no room for a number. -/
def longName : OutputName :=
  { stem := String.ofList (List.replicate 254 'a'), suffix := "-" }

def longShelf : Workspace :=
  (Workspace.empty (Path.parse "/W")).addFile ["W", longName.plain] []

theorem namesFiles_longName : longName.NamesFiles := by
  have letters {character : Char} (other : character ≠ 'a') : character ∉ longName.stem.toList := by
    have written : longName.stem.toList = List.replicate 254 'a' := String.toList_ofList
    rw [written]
    exact fun member => other (List.eq_of_mem_replicate member)
  exact ⟨⟨letters (by decide), by decide⟩, ⟨letters (by decide), by decide⟩, by decide⟩

theorem choose_longName : choose longShelf (Path.parse "") longName =
    .error (.unusablePath .nameTooLong (longName.numbered 2)) := by
  have leads : longShelf.locate (Path.parse "") = .ok ["W"] := by decide +kernel
  have room : Workspace.Fits (Path.parse "") longName.plain := by decide +kernel
  have noRoom : ¬ Workspace.Fits (Path.parse "") (longName.numbered 2) := by decide +kernel
  have taken : (longShelf.node? (["W"] ++ [longName.plain])).isSome = true := by decide +kernel
  have second : longName.Ends longShelf (Path.parse "") ["W"] 1 := by
    refine ⟨fun earlier before => ?_, fun fits => absurd fits noRoom⟩
    rw [Nat.lt_one_iff.mp before]
    exact ⟨room, taken⟩
  obtain ⟨tries, ends, chosen⟩ :=
    choose_ends namesFiles_longName (by decide) leads (by decide +kernel)
  rw [ends.unique second] at chosen
  have alone (text : String) : ((Path.parse "").child text).toString = text := by
    rw [show Path.parse "" = { root := "", parts := [] } by decide]
    simp [Path.child, Path.toString]
  rw [chosen, candidate, if_neg noRoom, alone]

/-- A file two directories down, and its second. -/
def deepShelf : Workspace :=
  ((Workspace.empty (Path.parse "/W")).addFile ["W", "a", "b"] []).addFile ["W", "a", "b-2"] []

/-- A long name that is taken has no free number; without a name, the directory itself is looked at
first; and a name in another directory can have more numbers than the directory has entries. -/
theorem free_name_not_always_found :
    choose longShelf (Path.parse "") longName =
        .error (.unusablePath .nameTooLong (longName.numbered 2)) ∧
      ((Workspace.empty (Path.parse "/W")).entriesOf (Path.parse "") = [] ∧
        (search (noting (Workspace.empty (Path.parse "/W"))) 2 (Path.parse "") ⟨"", ""⟩ []).2 =
          [Path.parse "", Path.parse "-2"]) ∧
      deepShelf.entriesOf (Path.parse "") = ["a"] ∧
        (search (noting deepShelf) 3 (Path.parse "") ⟨"a/b", ""⟩ []).2 =
          [Path.parse "a/b", Path.parse "a/b-2", Path.parse "a/b-3"] :=
  ⟨choose_longName, by decide +kernel, by decide +kernel⟩

end ListingAtlas.OutputName
