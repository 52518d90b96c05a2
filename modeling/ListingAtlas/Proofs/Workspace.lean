import ListingAtlas.Proofs.Outcome
import ListingAtlas.Proofs.Path
import ListingAtlas.Workspace

/-!
Files written and removed. Neither makes or takes a directory, so every path still leads where it
led; and at every place but the one that is written or emptied there is what was there.
-/

namespace ListingAtlas.Workspace

/-! ### Where paths lead -/

/-- Two workspaces with the same directories, in which paths start from the same one. -/
structure SameDirectories (one other : Workspace) : Prop where
  workingDirectory : other.workingDirectory = one.workingDirectory
  directories : ∀ place, other.node? place = some .directory ↔ one.node? place = some .directory

variable {one other workspace written : Workspace} {path : Path} {place : Place}

theorem SameDirectories.refl (workspace : Workspace) : SameDirectories workspace workspace :=
  ⟨rfl, fun _place => Iff.rfl⟩

theorem SameDirectories.symm (same : SameDirectories one other) : SameDirectories other one :=
  ⟨same.workingDirectory.symm, fun place => (same.directories place).symm⟩

theorem SameDirectories.trans {third : Workspace} (first : SameDirectories one other)
    (second : SameDirectories other third) : SameDirectories one third :=
  ⟨second.workingDirectory.trans first.workingDirectory,
    fun place => (second.directories place).trans (first.directories place)⟩

theorem follow_of_same (same : SameDirectories one other) {start : Place} {names : List String}
    (leads : one.follow start names = .ok place) : other.follow start names = .ok place := by
  induction names generalizing start with
  | nil => exact leads
  | cons name names ih =>
      rw [follow] at leads ⊢
      cases here : one.node? start with
      | none =>
          rw [here] at leads
          cases leads
      | some node =>
          cases node with
          | file content =>
              rw [here] at leads
              cases leads
          | directory =>
              rw [here] at leads
              rw [(same.directories start).mpr here]
              simp only at leads ⊢
              split
              · rename_i upward
                rw [if_pos upward] at leads
                exact ih leads
              · rename_i downward
                rw [if_neg downward] at leads
                split
                · rename_i long
                  rw [if_pos long] at leads
                  cases leads
                · rename_i short
                  rw [if_neg short] at leads
                  exact ih leads

theorem locate_of_same (same : SameDirectories one other) (leads : one.locate path = .ok place) :
    other.locate path = .ok place := by
  unfold locate at leads ⊢
  split
  · rename_i long
    rw [if_pos long] at leads
    cases leads
  · rename_i short
    rw [if_neg short] at leads
    rw [absolute, same.workingDirectory]
    exact follow_of_same same leads

theorem locate_iff_of_same (same : SameDirectories one other) (path : Path) (place : Place) :
    other.locate path = .ok place ↔ one.locate path = .ok place :=
  ⟨locate_of_same same.symm, locate_of_same same⟩

theorem follow_append (start : Place) (names more : List String) :
    workspace.follow start (names ++ more) =
      (workspace.follow start names).bind fun place => workspace.follow place more := by
  induction names generalizing start with
  | nil => rfl
  | cons name names ih =>
      rw [List.cons_append, follow, follow]
      split
      · rfl
      · rfl
      · split
        · exact ih _
        · split
          · rfl
          · exact ih _

theorem follow_cons_eq_ok_iff {start : Place} {name : String} {names : List String}
    (downward : name ≠ "..") :
    workspace.follow start (name :: names) = .ok place ↔
      workspace.node? start = some .directory ∧ name.utf8ByteSize ≤ longestName ∧
        workspace.follow (start ++ [name]) names = .ok place := by
  have step : ¬ (name == "..") = true := by simpa using downward
  rw [follow]
  split
  · simp [*]
  · simp [*]
  · rename_i here
    rw [if_neg step]
    split
    · rename_i long
      simp [here, Nat.not_le_of_lt long]
    · rename_i short
      simp [here, Nat.le_of_not_lt short]

theorem follow_upward {start : Place} {names : List String}
    (leads : workspace.follow start (".." :: names) = .ok place) :
    workspace.follow start.dropLast names = .ok place := by
  rw [follow] at leads
  split at leads
  · cases leads
  · cases leads
  · exact leads

/-- Without steps upward, every name leads one further down. -/
theorem follow_down {start : Place} {names : List String} (downward : ".." ∉ names)
    (leads : workspace.follow start names = .ok place) : place = start ++ names := by
  induction names generalizing start with
  | nil =>
      rw [List.append_nil]
      exact (Except.ok.inj leads).symm
  | cons name names ih =>
      rw [List.mem_cons, not_or] at downward
      obtain ⟨_here, _short, below⟩ :=
        (follow_cons_eq_ok_iff fun upward => downward.1 upward.symm).mp leads
      rw [ih downward.2 below, List.append_assoc, List.singleton_append]

/-- The last of some names is looked for where those before it lead. -/
theorem follow_concat {start : Place} {names : List String} {name : String}
    (downward : name ≠ "..") (leads : workspace.follow start (names ++ [name]) = .ok place) :
    ∃ directory, workspace.follow start names = .ok directory ∧ place = directory ++ [name] := by
  rw [follow_append, bind_eq_ok_iff] at leads
  obtain ⟨directory, before, last⟩ := leads
  have single : ".." ∉ [name] := by simpa using downward.symm
  exact ⟨directory, before, follow_down single last⟩

theorem follow_of_locate (leads : workspace.locate path = .ok place) :
    workspace.follow [] (workspace.absolute path).parts = .ok place := by
  unfold locate at leads
  split at leads
  · cases leads
  · exact leads

/-- Names lead on only from where something is. -/
theorem node?_isSome_of_follow {start : Place} {names : List String}
    (leads : workspace.follow start names = .ok place)
    (there : (workspace.node? place).isSome = true) :
    (workspace.node? start).isSome = true := by
  cases names with
  | nil =>
      rw [Except.ok.inj leads]
      exact there
  | cons name names =>
      rw [follow] at leads
      split at leads
      · cases leads
      · cases leads
      · rename_i here
        rw [here]
        rfl

/-- What a path leads to is called as the path is, unless that is a step upward. -/
theorem getLast?_locate {name : String} (last : path.parts.getLast? = some name)
    (downward : name ≠ "..") (leads : workspace.locate path = .ok place) :
    place.getLast? = some name := by
  have absolute : (workspace.absolute path).parts.getLast? = some name := by
    unfold absolute Path.join
    split
    · exact last
    · rw [List.getLast?_append, last]
      rfl
  obtain ⟨names, whole⟩ := List.getLast?_eq_some_iff.mp absolute
  unfold locate at leads
  rw [whole] at leads
  split at leads
  · cases leads
  · obtain ⟨directory, _leads, rfl⟩ := follow_concat downward leads
    exact List.getLast?_concat

theorem lookUp_eq_ok {node : Node} (leads : workspace.locate path = .ok place)
    (here : workspace.node? place = some node) : workspace.lookUp path = .ok node := by
  rw [lookUp, leads]
  simp only [here]

theorem exists_place_of_lookUp {node : Node} (found : workspace.lookUp path = .ok node) :
    ∃ place, workspace.locate path = .ok place ∧ workspace.node? place = some node := by
  unfold lookUp at found
  split at found
  · cases found
  · rename_i place leads
    split at found
    · rename_i here
      rw [← Except.ok.inj found]
      exact ⟨place, leads, here⟩
    · cases found

theorem exists_file_of_readListing {text : String} (read : workspace.readListing path = .ok text) :
    ∃ content, workspace.lookUp path = .ok (.file content) := by
  unfold readListing readBytes at read
  split at read
  · cases read
  · cases found : workspace.lookUp path with
    | error problem =>
        rw [found] at read
        cases read
    | ok node =>
        cases node with
        | directory =>
            rw [found] at read
            cases read
        | file content => exact ⟨content, rfl⟩

theorem readListing_of_lookUp {content : Text.Bytes} (noNull : holdsNull path = false)
    (found : workspace.lookUp path = .ok (.file content)) :
    workspace.readListing path = .ok (textOf content) := by
  rw [readListing, noNull, if_neg Bool.false_ne_true, readBytes, found]

theorem lookUp_eq_missing (leads : workspace.locate path = .ok place)
    (nothing : workspace.node? place = none) : workspace.lookUp path = .error .missing := by
  rw [lookUp, leads]
  simp only [nothing]

theorem isFile_of_node?_eq_none (leads : workspace.locate path = .ok place)
    (nothing : workspace.node? place = none) : workspace.isFile path = .ok false := by
  unfold isFile probe
  split
  · rfl
  · rw [lookUp, leads]
    simp only [nothing]
    rfl

/-! ### Looking -/

/-- A path with a name on it that is too long to be asked about. -/
def TooLong (workspace : Workspace) (path : Path) : Prop :=
  holdsNull path = false ∧ workspace.locate path = .error .nameTooLong

theorem probe_eq_some_iff {node : Node} :
    workspace.probe path = .ok (some node) ↔
      holdsNull path = false ∧ ∃ place, workspace.locate path = .ok place ∧
        workspace.node? place = some node := by
  unfold probe lookUp
  cases holdsNull path with
  | true => simp
  | false =>
      cases located : workspace.locate path with
      | error problem => cases problem <;> simp
      | ok place => cases here : workspace.node? place <;> simp [here]

/-- Looking fails only where a name is too long. -/
theorem probe_eq_error_iff {failure : Failure} :
    workspace.probe path = .error failure ↔
      workspace.TooLong path ∧ failure = .unusablePath .nameTooLong path.toString := by
  unfold probe lookUp TooLong
  cases holdsNull path with
  | true => simp
  | false =>
      cases located : workspace.locate path with
      | error problem => cases problem <;> simp [eq_comm]
      | ok place => cases here : workspace.node? place <;> simp [here]

theorem probe_of_isDirectory (directory : workspace.isDirectory path = .ok true) :
    workspace.probe path = .ok (some .directory) := by
  unfold isDirectory at directory
  cases probed : workspace.probe path with
  | error failure =>
      rw [probed] at directory
      cases directory
  | ok found =>
      rw [probed] at directory
      match found with
      | some .directory => rfl
      | some (.file content) => cases directory
      | none => cases directory

theorem probe_of_isFile (file : workspace.isFile path = .ok true) :
    ∃ content, workspace.probe path = .ok (some (.file content)) := by
  unfold isFile at file
  cases probed : workspace.probe path with
  | error failure =>
      rw [probed] at file
      cases file
  | ok found =>
      rw [probed] at file
      match found with
      | some (.file content) => exact ⟨content, rfl⟩
      | some .directory => cases file
      | none => cases file

theorem holds_eq_ok_true_iff :
    workspace.holds path = .ok true ↔
      holdsNull path = false ∧ ∃ place, workspace.locate path = .ok place ∧
        (workspace.node? place).isSome = true := by
  unfold holds
  rw [map_eq_ok_iff]
  constructor
  · rintro ⟨found, probed, some⟩
    obtain ⟨node, rfl⟩ := Option.isSome_iff_exists.mp some
    obtain ⟨noNull, place, leads, here⟩ := probe_eq_some_iff.mp probed
    exact ⟨noNull, place, leads, by rw [here]; rfl⟩
  · rintro ⟨noNull, place, leads, some⟩
    obtain ⟨node, here⟩ := Option.isSome_iff_exists.mp some
    exact ⟨_, probe_eq_some_iff.mpr ⟨noNull, place, leads, here⟩, rfl⟩

/-- Looking tells what is there or not, unless a name is too long. -/
theorem holds_eq_error_iff {failure : Failure} :
    workspace.holds path = .error failure ↔
      workspace.TooLong path ∧ failure = .unusablePath .nameTooLong path.toString := by
  rw [holds, map_eq_error_iff, probe_eq_error_iff]

/-- Nothing is at a path that something could be at. -/
def Vacant (workspace : Workspace) (path : Path) : Prop :=
  holdsNull path = false ∧
    ∃ place, workspace.locate path = .ok place ∧ workspace.node? place = none

theorem Vacant.holds (vacant : workspace.Vacant path) : workspace.holds path = .ok false := by
  obtain ⟨noNull, place, leads, nothing⟩ := vacant
  rw [Workspace.holds, probe, if_neg (by simp [noNull]), lookUp_eq_missing leads nothing]
  rfl

/-! ### Names in a directory -/

/-- Whether a name in a directory is short enough to be asked for. -/
def Fits (directory : Path) (name : String) : Prop :=
  name.utf8ByteSize ≤ longestName ∧ (directory.child name).toString.utf8ByteSize ≤ longestPath

instance (directory : Path) (name : String) : Decidable (Fits directory name) :=
  inferInstanceAs (Decidable (_ ∧ _))

theorem follow_child {start : Place} {names : List String} {name : String}
    (downward : name ≠ "..") (leads : workspace.follow start names = .ok place)
    (here : workspace.node? place = some .directory) :
    workspace.follow start (names ++ [name]) =
      if name.utf8ByteSize ≤ longestName then .ok (place ++ [name]) else .error .nameTooLong := by
  have step : ¬ (name == "..") = true := by simpa using downward
  rw [follow_append, leads, Except.bind, follow, here]
  simp only [if_neg step, follow]
  by_cases short : name.utf8ByteSize ≤ longestName
  · rw [if_pos short, if_neg (Nat.not_lt_of_le short)]
  · rw [if_neg short, if_pos (Nat.lt_of_not_le short)]
theorem parts_absolute_below (workspace : Workspace) (path : Path) (names : List String) :
    (workspace.absolute (path.below names)).parts = (workspace.absolute path).parts ++ names := by
  unfold absolute Path.join Path.below Path.isAbsolute
  split
  · rfl
  · rw [List.append_assoc]

theorem parts_absolute_child (workspace : Workspace) (directory : Path) (name : String) :
    (workspace.absolute (directory.child name)).parts =
      (workspace.absolute directory).parts ++ [name] :=
  workspace.parts_absolute_below directory [name]

/-- A name in a directory leads below it, unless it is too long. -/
theorem locate_child {directory : Path} {name : String} (downward : name ≠ "..")
    (leads : workspace.locate directory = .ok place)
    (here : workspace.node? place = some .directory) :
    workspace.locate (directory.child name) =
      if Fits directory name then .ok (place ++ [name]) else .error .nameTooLong := by
  unfold locate
  rw [parts_absolute_child, follow_child downward (follow_of_locate leads) here]
  by_cases long : longestPath < (directory.child name).toString.utf8ByteSize
  · rw [if_pos long, if_neg fun fits => Nat.not_lt_of_le fits.2 long]
  · rw [if_neg long]
    by_cases short : name.utf8ByteSize ≤ longestName
    · rw [if_pos short, if_pos ⟨short, Nat.le_of_not_lt long⟩]
    · rw [if_neg short, if_neg fun fits => short fits.1]

theorem holdsNull_child {directory : Path} {name : String} (noNull : holdsNull directory = false)
    (plain : '\x00' ∉ name.toList) : holdsNull (directory.child name) = false := by
  unfold holdsNull Path.child at *
  rw [List.any_append, noNull, List.any_cons, List.any_nil]
  simpa using plain

/-- Whether a name in a directory is taken, which cannot be told of one that is too long. -/
theorem holds_child {directory : Path} {name : String} (noNull : holdsNull directory = false)
    (plain : '\x00' ∉ name.toList) (downward : name ≠ "..")
    (leads : workspace.locate directory = .ok place)
    (here : workspace.node? place = some .directory) :
    workspace.holds (directory.child name) =
      if Fits directory name then .ok (workspace.node? (place ++ [name])).isSome
      else .error (.unusablePath .nameTooLong (directory.child name).toString) := by
  unfold holds probe lookUp
  rw [holdsNull_child noNull plain, if_neg Bool.false_ne_true, locate_child downward leads here]
  by_cases fits : Fits directory name
  · rw [if_pos fits, if_pos fits]
    cases node : workspace.node? (place ++ [name]) <;> simp only [node] <;> rfl
  · rw [if_neg fits, if_neg fits]
    rfl

/-! ### What a directory holds -/

/-- The names of what is in the directory at a place. -/
def entries (workspace : Workspace) (place : Place) : List String :=
  workspace.nodes.keys.filterMap fun other =>
    if other.dropLast = place then other.getLast? else none

theorem mem_entries_iff {name : String} :
    name ∈ workspace.entries place ↔ (workspace.node? (place ++ [name])).isSome = true := by
  unfold node? entries
  rw [if_neg (by simp), Table.get?_isSome_iff, List.mem_filterMap]
  constructor
  · rintro ⟨other, known, last⟩
    split at last
    · rename_i before
      rw [← before, List.dropLast_append_getLast? name last]
      exact known
    · cases last
  · intro known
    exact ⟨_, known, by rw [if_pos List.dropLast_concat, List.getLast?_concat]⟩

theorem length_entries_le : (workspace.entries place).length ≤ workspace.nodes.items.length := by
  have bound := List.length_filterMap_le
    (fun other : Place => if other.dropLast = place then other.getLast? else none)
    workspace.nodes.keys
  rw [Table.keys, List.length_map] at bound
  exact bound

/-- The names of what is in the directory that a path leads to, if it leads to one. -/
def entriesOf (workspace : Workspace) (path : Path) : List String :=
  match workspace.follow [] (workspace.absolute path).parts with
  | .ok place => workspace.entries place
  | .error _ => []

theorem length_entriesOf_le :
    (workspace.entriesOf path).length ≤ workspace.nodes.items.length := by
  unfold entriesOf
  split
  · exact length_entries_le
  · exact Nat.zero_le _

/-- What is found further down from a name in a directory shows that the directory holds the
name. -/
theorem mem_entriesOf_of_holds {directory : Path} {name : String} {names : List String}
    (downward : name ≠ "..") (told : workspace.holds (directory.below (name :: names)) = .ok true) :
    name ∈ workspace.entriesOf directory := by
  obtain ⟨_noNull, place, leads, there⟩ := holds_eq_ok_true_iff.mp told
  have followed := follow_of_locate leads
  rw [parts_absolute_below, follow_append, bind_eq_ok_iff] at followed
  obtain ⟨start, before, behind⟩ := followed
  obtain ⟨_here, _short, below⟩ := (follow_cons_eq_ok_iff downward).mp behind
  unfold entriesOf
  rw [before]
  exact mem_entries_iff.mpr (node?_isSome_of_follow below there)

/-! ### Writing -/

theorem nonempty_of_not_directory (notDirectory : workspace.node? place ≠ some .directory) :
    place.isEmpty = false := by
  rw [← Bool.not_eq_true]
  intro empty
  exact notDirectory (by rw [node?, if_pos empty])

theorem node?_setFile (notDirectory : workspace.node? place ≠ some .directory)
    (content : Text.Bytes) (elsewhere : Place) :
    (workspace.setFile place content).node? elsewhere =
      if elsewhere = place then some (.file content) else workspace.node? elsewhere := by
  have nonempty := nonempty_of_not_directory notDirectory
  unfold node? setFile
  rw [Table.get?_insert]
  by_cases same : elsewhere = place
  · rw [same, nonempty]
    rfl
  · rw [if_neg same, if_neg same]

theorem sameDirectories_setFile (notDirectory : workspace.node? place ≠ some .directory)
    (content : Text.Bytes) : SameDirectories workspace (workspace.setFile place content) where
  workingDirectory := rfl
  directories := by
    intro elsewhere
    rw [node?_setFile notDirectory]
    split
    · rename_i same
      rw [same]
      simp [notDirectory]
    · exact Iff.rfl

/-- What writing a file does, where it can be written. -/
structure WrittenAt (workspace : Workspace) (place : Place) (content : Text.Bytes)
    (written : Workspace) : Prop where
  same : SameDirectories workspace written
  notDirectory : workspace.node? place ≠ some .directory
  here : written.node? place = some (.file content)
  elsewhere : ∀ other, other ≠ place → written.node? other = workspace.node? other

theorem exists_writtenAt {content : Text.Bytes}
    (wrote : workspace.writeBytes path content = .ok written) :
    ∃ place, workspace.locate path = .ok place ∧ WrittenAt workspace place content written := by
  unfold writeBytes at wrote
  split at wrote
  · cases wrote
  · cases leads : workspace.locate path with
    | error problem =>
        rw [leads] at wrote
        cases wrote
    | ok place =>
        rw [leads] at wrote
        simp only at wrote
        split at wrote
        · cases wrote
        · rename_i notDirectory
          have changed : workspace.setFile place content = written := Except.ok.inj wrote
          refine ⟨place, rfl, ?_⟩
          subst changed
          refine ⟨sameDirectories_setFile notDirectory content, notDirectory, ?_, ?_⟩
          · rw [node?_setFile notDirectory, if_pos rfl]
          · intro other different
            rw [node?_setFile notDirectory, if_neg different]

/-- A name in a directory that is free, and not too long, can be written to. -/
theorem writeBytes_child {directory : Path} {name : String} (noNull : holdsNull directory = false)
    (plain : '\x00' ∉ name.toList) (downward : name ≠ "..")
    (leads : workspace.locate directory = .ok place)
    (here : workspace.node? place = some .directory) (fits : Fits directory name)
    (free : workspace.node? (place ++ [name]) = none) (content : Text.Bytes) :
    workspace.writeBytes (directory.child name) content =
      .ok (workspace.setFile (place ++ [name]) content) := by
  have located := locate_child downward leads here
  rw [if_pos fits] at located
  rw [writeBytes, holdsNull_child noNull plain, if_neg Bool.false_ne_true, located]
  simp only [free]

/-- Where no file can be written there is none. -/
theorem isFile_of_writeBytes_error {content : Text.Bytes} {failure : Failure}
    (refused : workspace.writeBytes path content = .error failure) :
    workspace.isFile path ≠ .ok true := by
  unfold writeBytes at refused
  unfold isFile probe
  split
  · intro file
    cases file
  · rename_i noNull
    rw [if_neg noNull] at refused
    cases leads : workspace.locate path with
    | error problem =>
        rw [lookUp, leads]
        cases problem <;> exact fun file => by cases file
    | ok place =>
        rw [leads] at refused
        simp only at refused
        split at refused
        · rename_i directory
          rw [lookUp_eq_ok leads directory]
          intro file
          cases file
        · cases refused

/-- No content is the reason why it cannot be written. -/
theorem writeBytes_eq_error {content : Text.Bytes} {failure : Failure}
    (refused : workspace.writeBytes path content = .error failure) (other : Text.Bytes) :
    workspace.writeBytes path other = .error failure := by
  unfold writeBytes at refused ⊢
  split at refused
  · rename_i null
    rw [if_pos null, Except.error.inj refused]
  · rename_i plain
    rw [if_neg plain]
    cases leads : workspace.locate path with
    | error problem =>
        rw [leads] at refused
        exact congrArg Except.error (Except.error.inj refused)
    | ok place =>
        rw [leads] at refused
        simp only at refused ⊢
        split at refused
        · exact congrArg Except.error (Except.error.inj refused)
        · cases refused

theorem sameDirectories_writeBytes {content : Text.Bytes}
    (wrote : workspace.writeBytes path content = .ok written) :
    SameDirectories workspace written := by
  obtain ⟨_place, _leads, writtenAt⟩ := exists_writtenAt wrote
  exact writtenAt.same

/-- What can be written is called by a path that holds no null. -/
theorem holdsNull_of_writeBytes {content : Text.Bytes}
    (wrote : workspace.writeBytes path content = .ok written) : holdsNull path = false := by
  unfold writeBytes at wrote
  split at wrote
  · cases wrote
  · rename_i noNull
    exact eq_false_of_ne_true noNull

/-- What cannot be written leads nowhere but to a directory. -/
theorem directory_of_writeBytes_error {content : Text.Bytes} {failure : Failure}
    (noNull : holdsNull path = false) (leads : workspace.locate path = .ok place)
    (refused : workspace.writeBytes path content = .error failure) :
    workspace.node? place = some .directory := by
  unfold writeBytes at refused
  rw [noNull, if_neg (by simp), leads] at refused
  simp only at refused
  split at refused
  · assumption
  · cases refused

/-! ### Keeping -/

/-- What was there still is, and the directories are the same. -/
structure Keeps (one other : Workspace) : Prop where
  same : SameDirectories one other
  node : ∀ place node, one.node? place = some node → other.node? place = some node

theorem Keeps.refl (workspace : Workspace) : Keeps workspace workspace :=
  ⟨.refl workspace, fun _place _node here => here⟩

theorem Keeps.trans {third : Workspace} (first : Keeps one other) (second : Keeps other third) :
    Keeps one third :=
  ⟨first.same.trans second.same,
    fun place node here => second.node place node (first.node place node here)⟩

/-- Whatever a path led to, it still leads to. -/
theorem Keeps.lookUp {node : Node} (keeps : Keeps one other)
    (found : one.lookUp path = .ok node) : other.lookUp path = .ok node := by
  obtain ⟨place, leads, here⟩ := exists_place_of_lookUp found
  exact lookUp_eq_ok (locate_of_same keeps.same leads) (keeps.node place node here)

theorem Keeps.holds (keeps : Keeps one other) (there : one.holds path = .ok true) :
    other.holds path = .ok true := by
  obtain ⟨noNull, place, leads, some⟩ := holds_eq_ok_true_iff.mp there
  obtain ⟨node, here⟩ := Option.isSome_iff_exists.mp some
  refine holds_eq_ok_true_iff.mpr ⟨noNull, place, locate_of_same keeps.same leads, ?_⟩
  rw [keeps.node place node here]
  rfl

/-- What is vacant now was so before. -/
theorem Keeps.vacant (keeps : Keeps one other) (vacant : other.Vacant path) : one.Vacant path := by
  obtain ⟨noNull, place, leads, nothing⟩ := vacant
  refine ⟨noNull, place, locate_of_same keeps.same.symm leads, ?_⟩
  cases here : one.node? place with
  | none => rfl
  | some node =>
      rw [keeps.node place node here] at nothing
      cases nothing

/-- A file that is new takes nothing away. -/
theorem WrittenAt.keeps {content : Text.Bytes} (wrote : WrittenAt workspace place content written)
    (nothing : workspace.node? place = none) : Keeps workspace written where
  same := wrote.same
  node := by
    intro other node here
    rw [wrote.elsewhere other]
    · exact here
    · rintro rfl
      rw [nothing] at here
      cases here

/-! ### Removing -/

/-- What is left when the file at a place is removed. -/
structure RemovedAt (workspace : Workspace) (place : Place) (removed : Workspace) : Prop where
  same : SameDirectories workspace removed
  here : removed.node? place = none
  elsewhere : ∀ other, other ≠ place → removed.node? other = workspace.node? other

theorem removedAt_removeFile {content : Text.Bytes} (leads : workspace.locate path = .ok place)
    (file : workspace.node? place = some (.file content)) :
    RemovedAt workspace place (workspace.removeFile path) := by
  have nonempty : place.isEmpty = false :=
    nonempty_of_not_directory (by rw [file]; simp)
  have erased (other : Place) : (workspace.removeFile path).node? other =
      if other = place then none else workspace.node? other := by
    unfold removeFile
    rw [leads]
    simp only [file]
    unfold node?
    rw [Table.get?_erase]
    by_cases same : other = place
    · rw [same, nonempty]
      rfl
    · rw [if_neg same, if_neg same]
  refine ⟨⟨?_, ?_⟩, ?_, ?_⟩
  · unfold removeFile
    rw [leads]
    simp only [file]
  · intro other
    rw [erased]
    split
    · rename_i same
      rw [same, file]
      simp
    · exact Iff.rfl
  · rw [erased, if_pos rfl]
  · intro other different
    rw [erased, if_neg different]

theorem removeFile_of_no_file (leads : workspace.locate path = .ok place)
    (noFile : ∀ content, workspace.node? place ≠ some (.file content)) :
    workspace.removeFile path = workspace := by
  unfold removeFile
  simp only [leads]

theorem sameDirectories_removeFile (workspace : Workspace) (path : Path) :
    SameDirectories workspace (workspace.removeFile path) := by
  cases leads : workspace.locate path with
  | error problem =>
      rw [removeFile, leads]
      exact .refl workspace
  | ok place =>
      by_cases file : ∃ content, workspace.node? place = some (.file content)
      · obtain ⟨content, file⟩ := file
        exact (removedAt_removeFile leads file).same
      · rw [removeFile_of_no_file leads fun content here => file ⟨content, here⟩]
        exact .refl workspace

theorem node?_removeFile {other : Place} (notDirectory : workspace.node? place ≠ some .directory)
    (leads : workspace.locate path = .ok other) :
    (workspace.removeFile path).node? place =
      if other = place then none else workspace.node? place := by
  by_cases file : ∃ content, workspace.node? other = some (.file content)
  · obtain ⟨content, file⟩ := file
    have removed := removedAt_removeFile leads file
    by_cases same : other = place
    · rw [if_pos same, ← same, removed.here]
    · rw [if_neg same, removed.elsewhere place fun equal => same equal.symm]
  · rw [removeFile_of_no_file leads fun content here => file ⟨content, here⟩]
    by_cases same : other = place
    · rw [if_pos same]
      rw [same] at file
      cases here : workspace.node? place with
      | none => rfl
      | some node =>
          cases node with
          | directory => exact absurd here notDirectory
          | file content => exact absurd ⟨content, here⟩ file
    · rw [if_neg same]

end ListingAtlas.Workspace
