import ListingAtlas.Proofs.Compile.Breaking

/-!
Temporary copies that cannot be made. Then no compiler is started. A path that cannot be written
leaves everything as it was; but text that no bytes can express is only found out when the file is
open and empty, and so it stays.
-/

namespace ListingAtlas

/-! ### Writing what is there -/

theorem Table.insert_of_get? {Key Value : Type} [DecidableEq Key] {table : Table Key Value}
    {key : Key} {value : Value} (found : table.get? key = some value) :
    table.insert key value = table := by
  have member := (Table.get?_eq_some_iff table key value).mp found
  have known : key ∈ table.keys := List.mem_map_of_mem member
  apply Table.eq_of_items
  rw [Table.items_insert_of_mem known, Table.replaceIn]
  refine (List.map_congr_left ?_).trans (List.map_id _)
  intro item stored
  split
  · rename_i same
    have second := (Table.get?_eq_some_iff table item.1 item.2).mpr stored
    rw [same, found, Option.some.injEq] at second
    rw [id, second, ← same]
  · rfl

namespace Workspace

variable {workspace written : Workspace} {path : Path} {content : Text.Bytes}

theorem setFile_of_node? {place : Place} (nonempty : place.isEmpty = false)
    (held : workspace.node? place = some (.file content)) :
    workspace.setFile place content = workspace := by
  rw [node?, nonempty, if_neg Bool.false_ne_true] at held
  rw [setFile, Table.insert_of_get? held]

theorem exists_setFile (wrote : workspace.writeBytes path content = .ok written) :
    ∃ place, workspace.locate path = .ok place ∧ workspace.node? place ≠ some .directory ∧
      written = workspace.setFile place content := by
  unfold writeBytes at wrote
  split at wrote
  · cases wrote
  · split at wrote
    · cases wrote
    · rename_i place leads
      split at wrote
      · cases wrote
      · rename_i notDirectory
        exact ⟨place, leads, notDirectory, (Except.ok.inj wrote).symm⟩

/-- A file that is written with what it holds changes nothing, and any other one does. -/
theorem eq_of_writeBytes_iff (wrote : workspace.writeBytes path content = .ok written) :
    written = workspace ↔ workspace.lookUp path = .ok (.file content) := by
  obtain ⟨place, leads, notDirectory, whole⟩ := exists_setFile wrote
  have here : written.node? place = some (.file content) := by
    rw [whole, node?_setFile notDirectory, if_pos rfl]
  constructor
  · intro same
    rw [same] at here
    exact lookUp_eq_ok leads here
  · intro found
    obtain ⟨other, leadsToo, held⟩ := exists_place_of_lookUp found
    rw [leads, Except.ok.injEq] at leadsToo
    rw [← leadsToo] at held
    rw [whole, setFile_of_node? (nonempty_of_not_directory notDirectory) held]

theorem ne_unencodable_of_writeBytes {failure : Failure}
    (refused : workspace.writeBytes path content = .error failure) (halves : Text.LoneHalves) :
    failure ≠ .unencodable halves := by
  rintro rfl
  unfold writeBytes at refused
  repeat' split at refused
  all_goals cases refused

end Workspace

theorem Text.EditorText.toString?_of_halves {text : Text.EditorText} {halves : Text.LoneHalves}
    (alone : text.loneHalves? = some halves) : text.toString? = none := by
  cases encodable : text.toString? with
  | none => rfl
  | some characters =>
      rw [loneHalves?_of_toString? encodable] at alone
      cases alone

namespace Compile

/-! ### Failing to make a copy -/

theorem generate_of_unmade_copy {site : Site} {request : Request} {failure : Failure}
    {left : Workspace} (nonempty : request.command ≠ [])
    (copying : writeCopy site.workspace (request.copyIn site.workspace) request.text =
      (left, .error failure)) :
    generate site request = ({ site with workspace := left }, [], .error failure) := by
  unfold Request.copyIn at copying
  unfold generate begin
  cases command : request.command with
  | nil => exact absurd command nonempty
  | cons program arguments => simp only [copying]

/-- What a copy that cannot be made leaves: no change if its path cannot be written, or an empty file
if its text cannot be expressed. -/
inductive Unmade (workspace : Workspace) (copy : Path) (text : Text.EditorText) :
    Workspace → Failure → Prop
  | unwritten {failure : Failure}
      (refused : ∃ content, workspace.writeBytes copy content = .error failure) :
      Unmade workspace copy text workspace failure
  | unexpressed {halves : Text.LoneHalves} {emptied : Workspace}
      (alone : text.loneHalves? = some halves)
      (opened : workspace.writeBytes copy [] = .ok emptied) :
      Unmade workspace copy text emptied (.unencodable halves)

theorem unmade_of_writeCopy {workspace left : Workspace} {copy : Path} {text : Text.EditorText}
    {failure : Failure} (copying : writeCopy workspace copy text = (left, .error failure)) :
    Unmade workspace copy text left failure := by
  unfold writeCopy at copying
  cases wrote : workspace.writeBytes copy ((text.toString?.map Text.encodeUtf8).getD []) with
  | error refused =>
      simp only [wrote, Prod.mk.injEq, Except.error.injEq] at copying
      obtain ⟨rfl, rfl⟩ := copying
      exact .unwritten ⟨_, wrote⟩
  | ok written =>
      simp only [wrote] at copying
      cases alone : text.loneHalves? with
      | none =>
          simp only [alone, Prod.mk.injEq] at copying
          cases copying.2
      | some halves =>
          simp only [alone, Prod.mk.injEq, Except.error.injEq] at copying
          obtain ⟨rfl, rfl⟩ := copying
          rw [Text.EditorText.toString?_of_halves alone] at wrote
          exact .unexpressed alone wrote

/-- If the copy of a request cannot be made, no process is started and nothing is logged. The files
are then as before just if the failure is another one than that of a text which cannot be expressed,
or an empty file stood there already; otherwise an empty one stands there now, and all other files
are as before. -/
theorem unmade_copy_traceless_iff {site : Site} {request : Request} {failure : Failure}
    (nonempty : request.command ≠ [])
    (fails : (writeCopy site.workspace (request.copyIn site.workspace) request.text).2 =
      .error failure) :
    let copy := request.copyIn site.workspace
    let left := (generate site request).1
    (generate site request).2 = ([], .error failure) ∧
      left.runs = site.runs ∧ left.behaviours = site.behaviours ∧
      (left.workspace = site.workspace ↔
        (∀ halves, failure ≠ .unencodable halves) ∨
          site.workspace.lookUp copy = .ok (.file [])) ∧
      (∀ halves, failure = .unencodable halves →
        request.text.toString? = none ∧ left.workspace.lookUp copy = .ok (.file []) ∧
          ∀ place, site.workspace.locate copy ≠ .ok place →
            left.workspace.node? place = site.workspace.node? place) := by
  intro copy left
  obtain ⟨workspace, copying⟩ : ∃ workspace,
      writeCopy site.workspace copy request.text = (workspace, .error failure) :=
    ⟨_, Prod.ext rfl fails⟩
  have generated := generate_of_unmade_copy nonempty copying
  have files : left = { site with workspace } := congrArg Prod.fst generated
  rw [files, generated]
  refine ⟨rfl, rfl, rfl, ?_⟩
  cases unmade_of_writeCopy copying with
  | unwritten refused =>
      obtain ⟨content, refused⟩ := refused
      have other := Workspace.ne_unencodable_of_writeBytes refused
      exact ⟨⟨fun _same => Or.inl other, fun _either => rfl⟩,
        fun halves same => absurd same (other halves)⟩
  | @unexpressed halves emptied alone opened =>
      constructor
      · rw [← Workspace.eq_of_writeBytes_iff opened]
        refine ⟨Or.inr, ?_⟩
        rintro (other | same)
        · exact absurd rfl (other halves)
        · exact same
      · intro _halves _same
        obtain ⟨place, leads, written⟩ := Workspace.exists_writtenAt opened
        have still := Workspace.locate_of_same written.same leads
        refine ⟨Text.EditorText.toString?_of_halves alone,
          Workspace.lookUp_eq_ok still written.here, ?_⟩
        intro other elsewhere
        exact written.elsewhere other fun same => elsewhere (same ▸ leads)

/-- The directory of the source is missing, so the file is not even opened for a text that could not
be expressed. -/
theorem unmade_copy_traceless_missing :
    let site : Site :=
      { workspace := Workspace.empty (Path.parse "/W"), runs := [], behaviours := [] }
    let request : Request :=
      { command := ["cl", "-c", "main.c"]
        source := Path.parse "src/main.c"
        text := ⟨[.scalar 'x', .surrogate 0xD800]⟩
        directory := "/W"
        buildDirectory := Path.parse "."
        limit := none }
    let failure : Failure := .unusablePath .missing "/W/src/.asme-main.c"
    (writeCopy site.workspace (request.copyIn site.workspace) request.text).2 = .error failure ∧
      (generate site request).2 = ([], .error failure) ∧
      (generate site request).1.runs = [] ∧
      (generate site request).1.workspace = site.workspace := by
  intro site request failure
  have fails : (writeCopy site.workspace (request.copyIn site.workspace) request.text).2 =
      .error failure := by decide +kernel
  obtain ⟨failed, runs, _behaviours, traceless, _emptied⟩ :=
    unmade_copy_traceless_iff (by decide) fails
  have otherwise (halves : Text.LoneHalves) :
      Failure.unusablePath .missing "/W/src/.asme-main.c" ≠ .unencodable halves := nofun
  exact ⟨fails, failed, runs, traceless.mpr (Or.inl otherwise)⟩

/-- Text with half a surrogate pair leaves an empty copy where there was nothing. -/
theorem empty_copy_left_behind :
    let site : Site :=
      { workspace := Workspace.empty (Path.parse "/W"), runs := [], behaviours := [] }
    let request : Request :=
      { command := ["cl", "-c", "main.c"]
        source := Path.parse "main.c"
        text := ⟨[.surrogate 0xD800]⟩
        directory := "/W"
        buildDirectory := Path.parse "."
        limit := none }
    let copy := Path.parse "/W/.asme-main.c"
    let left := (generate site request).1
    (generate site request).2 = ([], .error (.unencodable ⟨0, 1, 0xD800⟩)) ∧ left.runs = [] ∧
      site.workspace.lookUp copy = .error .missing ∧
      left.workspace.lookUp copy = .ok (.file []) ∧ left.workspace ≠ site.workspace := by
  intro site request copy left
  have before : site.workspace.lookUp copy = .error .missing := by decide +kernel
  have after : left.workspace.lookUp copy = .ok (.file []) := by decide +kernel
  refine ⟨by decide +kernel, by decide +kernel, before, after, ?_⟩
  intro same
  rw [same, before] at after
  cases after

end Compile

end ListingAtlas
