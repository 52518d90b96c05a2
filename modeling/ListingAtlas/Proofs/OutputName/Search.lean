import Mathlib.Data.List.Nodup
import Mathlib.Data.List.Perm.Subperm
import Mathlib.Data.Nat.Find
import ListingAtlas.Proofs.OutputName
import ListingAtlas.Proofs.Workspace

/-!
The search for an output name. It looks at the candidates one after another and ends at the first
that is free, or that is too long to be asked for. It always ends: the candidates stand in one
directory under different names, and that directory holds only finitely many.
-/

namespace ListingAtlas.OutputName

/-! ### Where candidates stand -/

section

variable (name : OutputName)

/-- The path at which a candidate is looked for. -/
def path (directory : Path) (tries : Nat) : Path :=
  directory.join (Path.parse (name.candidate tries))

/-- What stands in front of the mark of a candidate. -/
def prologue : List Char :=
  name.stem.toList ++ (splitSuffix name.suffix).1.toList

/-- What stands behind the mark of a candidate. -/
def epilogue : List Char :=
  (splitSuffix name.suffix).2.toList

/-- A candidate up to the last separator in front of its mark. -/
def front : List Char :=
  (name.prologue.reverse.dropWhile (· != '/')).reverse

/-- A candidate from the first separator behind its mark on. -/
def back : List Char :=
  name.epilogue.dropWhile (· != '/')

/-- The name in a candidate that its mark is part of. -/
def entry (tries : Nat) : List Char :=
  (name.prologue.reverse.takeWhile (· != '/')).reverse ++ mark tries ++
    name.epilogue.takeWhile (· != '/')

/-- The directory that the names with the marks are in. -/
def home (directory : Path) : Path :=
  directory.join (Path.parse (String.ofList name.front))

theorem toList_candidate_eq (tries : Nat) :
    (name.candidate tries).toList = name.front ++ (name.entry tries ++ name.back) := by
  have before : name.front ++ (name.prologue.reverse.takeWhile (· != '/')).reverse =
      name.prologue := by
    rw [front, ← List.reverse_append, List.takeWhile_append_dropWhile, List.reverse_reverse]
  have behind : name.epilogue.takeWhile (· != '/') ++ name.back = name.epilogue :=
    List.takeWhile_append_dropWhile
  rw [toList_candidate, entry]
  simp only [List.append_assoc]
  rw [behind, ← List.append_assoc name.front, before, prologue, epilogue]
  simp only [List.append_assoc]

theorem closed_front : name.front = [] ∨ ∃ before, name.front = before ++ ['/'] := by
  unfold front
  have stops := List.head?_dropWhile_not (· != '/') name.prologue.reverse
  cases rest : name.prologue.reverse.dropWhile (· != '/') with
  | nil => exact Or.inl rfl
  | cons first before =>
      rw [rest] at stops
      have separator : first = '/' := by simpa using stops
      rw [separator, List.reverse_cons]
      exact Or.inr ⟨_, rfl⟩

theorem opened_back : name.back = [] ∨ ∃ behind, name.back = '/' :: behind := by
  unfold back
  have stops := List.head?_dropWhile_not (· != '/') name.epilogue
  cases rest : name.epilogue.dropWhile (· != '/') with
  | nil => exact Or.inl rfl
  | cons first behind =>
      rw [rest] at stops
      have separator : first = '/' := by simpa using stops
      rw [separator]
      exact Or.inr ⟨_, rfl⟩

theorem separator_not_mem_entry (tries : Nat) : '/' ∉ name.entry tries := by
  have passed {characters : List Char} : '/' ∉ characters.takeWhile (· != '/') := by
    intro separator
    simpa using List.mem_takeWhile_imp separator
  unfold entry
  simp only [List.mem_append, List.mem_reverse, not_or]
  exact ⟨⟨passed, not_mem_mark (by decide) (by decide) tries⟩, passed⟩

/-- If anything stands behind the mark, then an extension with its dot. -/
theorem epilogue_cases : name.epilogue = [] ∨
    ∃ extension, name.epilogue = '.' :: extension ∧ '.' ∉ extension := by
  rcases (parted_splitSuffix name.suffix).atLastDot with
    ⟨none, _noDot⟩ | ⟨_label, extension, written, noDot⟩
  · left
    rw [epilogue, none]
    rfl
  · exact Or.inr ⟨extension, written, noDot⟩

theorem upward_not_mem_back : ".." ∉ Path.namesIn name.back := by
  apply Path.upward_not_mem_namesIn
  unfold back
  rcases name.epilogue_cases with none | ⟨extension, written, noDot⟩
  · rw [none]
    exact List.not_mem_nil
  · rw [written, List.dropWhile_cons_of_pos (by decide)]
    exact fun dot => noDot (List.dropWhile_sublist _ |>.subset dot)

theorem head?_entry_append_back (tries : Nat) :
    (name.entry tries ++ name.back).head? ≠ some '/' := by
  have separator : (name.entry tries).head? ≠ some '/' :=
    fun first => name.separator_not_mem_entry tries (List.mem_of_head? first)
  rcases name.epilogue_cases with none | ⟨extension, dotted, _noDot⟩
  · rw [back, none, List.dropWhile_nil, List.append_nil]
    exact separator
  · have nonempty : name.entry tries ≠ [] := by
      rw [entry, dotted, List.takeWhile_cons_of_pos (by decide)]
      simp
    rw [List.head?_append_of_ne_nil _ nonempty]
    exact separator

/-- All candidates stand in one directory; they differ only in the name that has the mark. -/
theorem path_eq (directory : Path) (tries : Nat) :
    name.path directory tries = (name.home directory).below
      (Path.namesIn (name.entry tries) ++ Path.namesIn name.back) := by
  have written : name.candidate tries =
      String.ofList (name.front ++ (name.entry tries ++ name.back)) := by
    rw [← name.toList_candidate_eq, String.ofList_toList]
  rw [path, written, home, Path.join_parse_append directory name.closed_front
    (name.head?_entry_append_back tries), Path.namesIn_append_of_opened _ name.opened_back]

/-- The name with the mark is one that something can have in a directory. -/
def Proper (tries : Nat) : Prop :=
  name.entry tries ≠ [] ∧ name.entry tries ≠ ['.'] ∧ name.entry tries ≠ ['.', '.']

instance (tries : Nat) : Decidable (name.Proper tries) :=
  inferInstanceAs (Decidable (_ ∧ _ ∧ _))

theorem proper_succ (further : Nat) : name.Proper (further + 1) := by
  have hyphen : '-' ∈ name.entry (further + 1) := by
    simp [entry, mark]
  refine ⟨List.ne_nil_of_mem hyphen, ?_, ?_⟩ <;>
  · intro dots
    rw [dots] at hyphen
    exact absurd hyphen (by decide)

theorem entry_injective {name : OutputName} {first second : Nat}
    (same : name.entry first = name.entry second) : first = second :=
  mark_injective (List.append_cancel_left (List.append_cancel_right same))

end

variable {name : OutputName} {workspace : Workspace} {directory : Path} {place : Place}

theorem Proper.namesIn {tries : Nat} (proper : name.Proper tries) :
    Path.namesIn (name.entry tries) = [String.ofList (name.entry tries)] := by
  rw [Path.namesIn_name (name.separator_not_mem_entry tries), Path.partOf?,
    if_neg (by simp [proper.1, proper.2.1])]
  rfl

theorem Proper.downward {tries : Nat} (proper : name.Proper tries) :
    String.ofList (name.entry tries) ≠ ".." :=
  fun upward => proper.2.2 (String.ofList_injective upward)

/-! ### Names without separators -/

section

variable (stem : '/' ∉ name.stem.toList) (suffix : '/' ∉ name.suffix.toList)

include stem suffix

theorem no_separator : (∀ character ∈ name.prologue.reverse, (character != '/') = true) ∧
    ∀ character ∈ name.epilogue, (character != '/') = true := by
  rw [← splitSuffix_append name.suffix, String.toList_append, List.mem_append, not_or] at suffix
  refine ⟨fun character member => ?_, fun character member => ?_⟩
  · rw [List.mem_reverse, prologue, List.mem_append] at member
    rw [bne_iff_ne]
    rintro rfl
    exact member.elim stem suffix.1
  · rw [bne_iff_ne]
    rintro rfl
    exact suffix.2 member

/-- Without separators, candidates stand in the directory itself. -/
theorem home_of_no_separator (directory : Path) : name.home directory = directory := by
  rw [home, front, List.dropWhile_eq_nil_iff.mpr (no_separator stem suffix).1]
  exact congrArg (Path.mk directory.root) (List.append_nil _)

theorem entry_of_no_separator (tries : Nat) : name.entry tries = (name.candidate tries).toList := by
  have parts := no_separator stem suffix
  rw [entry, List.takeWhile_eq_self_iff.mpr parts.1, List.takeWhile_eq_self_iff.mpr parts.2,
    List.reverse_reverse, toList_candidate, prologue, epilogue]

end

/-! ### How many can be taken -/

/-- How many candidates do not name what is in a directory, but the directory itself or the one
above it. -/
def aside (name : OutputName) : Nat :=
  if name.Proper 0 then 0 else 1

theorem aside_of_no_separator (stem : '/' ∉ name.stem.toList) (suffix : '/' ∉ name.suffix.toList) :
    name.aside = if name.plain ∈ ["", ".", ".."] then 1 else 0 := by
  have names : name.plain ∈ ["", ".", ".."] ↔ ¬ name.Proper 0 := by
    simp only [Proper, entry_of_no_separator stem suffix, candidate, Ne, not_and_or, not_not,
      List.mem_cons, List.not_mem_nil, or_false, ← String.toList_inj]
    rfl
  unfold aside
  by_cases proper : name.Proper 0
  · rw [if_pos proper, if_neg fun member => names.mp member proper]
  · rw [if_neg proper, if_pos (names.mpr proper)]

theorem proper_of_aside_le {tries : Nat} (behind : name.aside ≤ tries) : name.Proper tries := by
  cases tries with
  | succ further => exact name.proper_succ further
  | zero =>
      unfold aside at behind
      split at behind
      · assumption
      · cases behind

/-- What a candidate is called by is in the directory if the candidate is taken. -/
theorem mem_entriesOf {tries : Nat} (proper : name.Proper tries)
    (taken : workspace.holds (name.path directory tries) = .ok true) :
    String.ofList (name.entry tries) ∈ workspace.entriesOf (name.home directory) := by
  rw [path_eq, proper.namesIn, List.singleton_append] at taken
  exact Workspace.mem_entriesOf_of_holds proper.downward taken

/-- No more candidates can be taken than there are names in the directory. -/
theorem taken_le {count : Nat} (taken : ∀ earlier, earlier < count →
    workspace.holds (name.path directory earlier) = .ok true) :
    count ≤ (workspace.entriesOf (name.home directory)).length + name.aside := by
  let names := (List.range (count - name.aside)).map fun further =>
    String.ofList (name.entry (name.aside + further))
  have distinct : names.Nodup := by
    refine List.Nodup.map ?_ List.nodup_range
    intro first second same
    exact Nat.add_left_cancel (entry_injective (String.ofList_injective same))
  have among : names ⊆ workspace.entriesOf (name.home directory) := by
    intro other member
    obtain ⟨further, within, rfl⟩ := List.mem_map.mp member
    rw [List.mem_range] at within
    exact mem_entriesOf (proper_of_aside_le (Nat.le_add_right _ further)) (taken _ (by omega))
  have bound := (distinct.subperm among).length_le
  rw [List.length_map, List.length_range] at bound
  omega

/-! ### Where the search ends -/

/-- The search finds a candidate: all earlier ones are taken, and this one is not known to be. -/
structure Finds (name : OutputName) (workspace : Workspace) (directory : Path) (tries : Nat) :
    Prop where
  taken : ∀ earlier, earlier < tries → workspace.holds (name.path directory earlier) = .ok true
  ends : workspace.holds (name.path directory tries) ≠ .ok true

theorem exists_finds (name : OutputName) (workspace : Workspace) (directory : Path) :
    ∃ tries, name.Finds workspace directory tries ∧
      tries ≤ (workspace.entriesOf (name.home directory)).length + name.aside := by
  classical
  let all := (workspace.entriesOf (name.home directory)).length + name.aside + 1
  have some : ∃ tries, workspace.holds (name.path directory tries) ≠ .ok true := by
    -- Were all of them taken, so would be one more than can be.
    by_contra none
    rw [not_exists] at none
    have bound : all ≤ _ := taken_le fun earlier _within => not_not.mp (none earlier)
    exact Nat.not_succ_le_self _ bound
  have finds : name.Finds workspace directory (Nat.find some) :=
    ⟨fun earlier before => not_not.mp (Nat.find_min some before), Nat.find_spec some⟩
  exact ⟨_, finds, taken_le finds.taken⟩

/-! ### What the search does -/

/-- Looking that notes where it looks. -/
abbrev Noting := ExceptT Failure (StateM (List Path))

def noting (workspace : Workspace) (path : Path) : Noting Bool :=
  fun noted => (workspace.holds path, noted ++ [path])

theorem Noting.bind_apply {First Second : Type} (looking : Noting First)
    (next : First → Noting Second) (noted : List Path) :
    (looking >>= next) noted =
      match looking noted with
      | (.ok first, noted) => next first noted
      | (.error failure, noted) => (.error failure, noted) := by
  change ExceptT.bindCont next (looking noted).1 (looking noted).2 = _
  match looking noted with
  | (.ok first, noted) => rfl
  | (.error failure, noted) => rfl

theorem map_range_succ {Item : Type} (give : Nat → Item) (count : Nat) :
    (List.range (count + 1)).map give =
      give 0 :: (List.range count).map fun further => give (further + 1) := by
  rw [List.range_succ_eq_map, List.map_cons, List.map_map]
  rfl

/-- The numbers up to the first that is not taken are looked at, each once. -/
theorem findFree_noting (pathOf : Nat → Path) {looks passed first : Nat}
    (taken : ∀ earlier, earlier < passed → workspace.holds (pathOf (earlier + first)) = .ok true)
    (ends : workspace.holds (pathOf (passed + first)) ≠ .ok true) (enough : passed < looks)
    (noted : List Path) :
    findFree (fun number => noting workspace (pathOf number)) looks first noted =
      ((workspace.holds (pathOf (passed + first))).map fun _ => passed + first,
        noted ++ (List.range (passed + 1)).map fun further => pathOf (further + first)) := by
  -- A number that is passed takes one look, and the search goes on from the next number.
  induction passed generalizing looks first noted with
  | zero =>
      obtain ⟨looks, rfl⟩ := Nat.exists_eq_add_one_of_ne_zero (Nat.ne_of_gt enough)
      rw [Nat.zero_add] at ends ⊢
      rw [findFree, Noting.bind_apply, noting, map_range_succ, Nat.zero_add]
      match told : workspace.holds (pathOf first) with
      | .ok true => exact absurd told ends
      | .ok false => rfl
      | .error failure => rfl
  | succ passed ih =>
      obtain ⟨looks, rfl⟩ :=
        Nat.exists_eq_add_one_of_ne_zero (Nat.ne_of_gt (Nat.zero_lt_of_lt enough))
      have next (count : Nat) : count + 1 + first = count + (first + 1) := by omega
      have here := taken 0 (Nat.succ_pos passed)
      have later (earlier : Nat) (within : earlier < passed) :
          workspace.holds (pathOf (earlier + (first + 1))) = .ok true := by
        rw [← next]
        exact taken (earlier + 1) (Nat.succ_lt_succ within)
      rw [next] at ends
      rw [Nat.zero_add] at here
      rw [findFree, Noting.bind_apply, noting, here]
      simp only [if_true]
      rw [ih later ends (Nat.lt_of_succ_lt_succ enough), map_range_succ _ (passed + 1)]
      simp only [next, Nat.zero_add, List.append_assoc, List.singleton_append]

/-- The search ends where it finds a candidate, after one look at each up to this one. -/
theorem Finds.search_noting {tries looks : Nat} (finds : name.Finds workspace directory tries)
    (enough : tries ≤ looks) :
    search (noting workspace) looks directory name [] =
      ((workspace.holds (name.path directory tries)).map fun _ => name.path directory tries,
        (List.range (tries + 1)).map (name.path directory)) := by
  unfold search
  rw [Noting.bind_apply, noting]
  cases tries with
  | zero =>
      have ends : workspace.holds (directory.join (Path.parse name.plain)) ≠ .ok true := finds.ends
      unfold path candidate
      match told : workspace.holds (directory.join (Path.parse name.plain)) with
      | .ok true => exact absurd told ends
      | .ok false => rfl
      | .error failure => rfl
  | succ further =>
      have first : workspace.holds (directory.join (Path.parse name.plain)) = .ok true :=
        finds.taken 0 (Nat.succ_pos further)
      let pathOf (number : Nat) := directory.join (Path.parse (name.numbered number))
      have later (earlier : Nat) (within : earlier < further) :
          workspace.holds (pathOf (earlier + 2)) = .ok true :=
        finds.taken (earlier + 1) (Nat.succ_lt_succ within)
      have ends : workspace.holds (pathOf (further + 2)) ≠ .ok true := finds.ends
      have found : (findFree (fun number => noting workspace (pathOf number)) looks 2 >>=
          fun number => pure (pathOf number)) [name.path directory 0] =
            ((workspace.holds (pathOf (further + 2))).map fun _ => pathOf (further + 2),
              name.path directory 0 ::
                (List.range (further + 1)).map fun earlier => pathOf (earlier + 2)) := by
        rw [Noting.bind_apply, findFree_noting pathOf later ends enough]
        cases workspace.holds (pathOf (further + 2)) <;> rfl
      rw [first, map_range_succ]
      exact found

/-- Looking comes to an outcome, whatever has been noted. -/
def Noting.Gives {Result : Type} (looking : Noting Result) (outcome : Except Failure Result) :
    Prop :=
  ∀ noted, (looking noted).1 = outcome

theorem Noting.Gives.bind {First Second : Type} {looking : Noting First}
    {outcome : Except Failure First} (gives : looking.Gives outcome)
    {next : First → Noting Second} {nextOutcome : First → Except Failure Second}
    (gives_next : ∀ first, (next first).Gives (nextOutcome first)) :
    Noting.Gives (looking >>= next) (outcome >>= nextOutcome) := by
  intro noted
  rw [Noting.bind_apply, ← gives noted]
  match looking noted with
  | (.ok first, noted) => exact gives_next first noted
  | (.error failure, noted) => rfl

theorem gives_pure {Result : Type} (result : Result) :
    Noting.Gives (pure result) (pure result) :=
  fun _noted => rfl

theorem gives_noting (workspace : Workspace) (path : Path) :
    (noting workspace path).Gives (workspace.holds path) :=
  fun _noted => rfl

theorem gives_findFree (pathOf : Nat → Path) (looks first : Nat) :
    Noting.Gives (findFree (fun number => noting workspace (pathOf number)) looks first)
      (findFree (fun number => workspace.holds (pathOf number)) looks first) := by
  induction looks generalizing first with
  | zero => exact gives_pure first
  | succ looks ih =>
      refine (gives_noting workspace (pathOf first)).bind fun taken => ?_
      cases taken with
      | true => exact ih (first + 1)
      | false => exact gives_pure first

/-- Noting changes nothing about what is found. -/
theorem gives_search (workspace : Workspace) (looks : Nat) (directory : Path) (name : OutputName) :
    Noting.Gives (search (noting workspace) looks directory name)
      (search workspace.holds looks directory name) := by
  refine (gives_noting workspace _).bind fun taken => ?_
  cases taken with
  | false => exact gives_pure _
  | true => exact (gives_findFree _ looks 2).bind fun number => gives_pure _

/-- More looks than are needed change nothing. -/
theorem Finds.search_eq {tries looks : Nat} (finds : name.Finds workspace directory tries)
    (enough : tries ≤ looks) :
    search workspace.holds looks directory name =
      (workspace.holds (name.path directory tries)).map fun _ => name.path directory tries := by
  rw [← gives_search workspace looks directory name [], finds.search_noting enough]

theorem aside_le_one (name : OutputName) : name.aside ≤ 1 := by
  unfold aside
  split <;> decide

/-- The looks that are taken at most are enough. -/
theorem Finds.le_looks {tries : Nat} (finds : name.Finds workspace directory tries) :
    tries ≤ workspace.nodes.items.length + 1 := by
  have bound := taken_le finds.taken
  have entries : (workspace.entriesOf (name.home directory)).length ≤ _ :=
    Workspace.length_entriesOf_le
  have aside := name.aside_le_one
  omega

theorem Finds.choose_eq {tries : Nat} (finds : name.Finds workspace directory tries) :
    choose workspace directory name =
      (workspace.holds (name.path directory tries)).map fun _ => name.path directory tries :=
  finds.search_eq finds.le_looks

/-! ### Names of files in a directory -/

/-- The search ends at a candidate: all earlier ones could be asked for and are taken, and this one
is free, if it can be asked for. -/
structure Ends (name : OutputName) (workspace : Workspace) (directory : Path) (place : Place)
    (tries : Nat) : Prop where
  taken : ∀ earlier, earlier < tries → Workspace.Fits directory (name.candidate earlier) ∧
    (workspace.node? (place ++ [name.candidate earlier])).isSome = true
  free : Workspace.Fits directory (name.candidate tries) →
    workspace.node? (place ++ [name.candidate tries]) = none

theorem Ends.not_lt {first second : Nat} (ends : name.Ends workspace directory place first)
    (endsToo : name.Ends workspace directory place second) : ¬ first < second := by
  intro earlier
  obtain ⟨fits, taken⟩ := endsToo.taken first earlier
  rw [ends.free fits] at taken
  cases taken

/-- The search ends at one candidate only. -/
theorem Ends.unique {first second : Nat} (ends : name.Ends workspace directory place first)
    (endsToo : name.Ends workspace directory place second) : first = second :=
  Nat.le_antisymm (Nat.le_of_not_lt (endsToo.not_lt ends)) (Nat.le_of_not_lt (ends.not_lt endsToo))

section

variable (files : name.NamesFiles) (noNull : Workspace.holdsNull directory = false)
  (leads : workspace.locate directory = .ok place)
  (here : workspace.node? place = some .directory)

include files noNull leads here

theorem holds_candidate (tries : Nat) :
    workspace.holds (name.path directory tries) =
      if Workspace.Fits directory (name.candidate tries) then
        .ok (workspace.node? (place ++ [name.candidate tries])).isSome
      else .error (.unusablePath .nameTooLong
        (directory.child (name.candidate tries)).toString) := by
  rw [path, files.join]
  exact Workspace.holds_child noNull (files.not_null tries) (files.downward tries) leads here

theorem Finds.ends_at {tries : Nat} (finds : name.Finds workspace directory tries) :
    name.Ends workspace directory place tries where
  taken := by
    intro earlier before
    have told := finds.taken earlier before
    rw [holds_candidate files noNull leads here] at told
    split at told
    · exact ⟨by assumption, Except.ok.inj told⟩
    · cases told
  free := by
    intro fits
    have told := finds.ends
    rw [holds_candidate files noNull leads here, if_pos fits] at told
    rw [← Option.not_isSome_iff_eq_none]
    exact fun taken => told (congrArg Except.ok taken)

/-- The candidate at which the search ends is chosen, unless it is too long to be asked for. -/
theorem choose_ends :
    ∃ tries, name.Ends workspace directory place tries ∧
      choose workspace directory name =
        if Workspace.Fits directory (name.candidate tries) then
          .ok (directory.child (name.candidate tries))
        else .error (.unusablePath .nameTooLong
          (directory.child (name.candidate tries)).toString) := by
  obtain ⟨tries, finds, _bound⟩ := exists_finds name workspace directory
  refine ⟨tries, finds.ends_at files noNull leads here, ?_⟩
  rw [finds.choose_eq, holds_candidate files noNull leads here, path, files.join]
  split <;> rfl

end

end ListingAtlas.OutputName
