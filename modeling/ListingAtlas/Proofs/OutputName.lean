import ListingAtlas.OutputName
import ListingAtlas.Proofs.Path
import ListingAtlas.Proofs.Text.MadeOf

/-!
Output names. Those that a view can be saved under differ only in a number between the stem and the
extension, and no two have the same.
-/

namespace ListingAtlas.OutputName

/-- The names that a view can be saved under, in the order in which they are tried. -/
def candidate (name : OutputName) : Nat → String
  | 0 => name.plain
  | further + 1 => name.numbered (further + 2)

/-! ### Names and numbers -/

/-- A suffix parted at its last dot, or not parted if it has none or begins with its only one. -/
structure Parted (suffix label extension : String) : Prop where
  whole : label ++ extension = suffix
  atLastDot : extension = "" ∧ '.' ∉ suffix.toList.tail ∨
    label ≠ "" ∧ ∃ behind, extension.toList = '.' :: behind ∧ '.' ∉ behind

theorem parted_splitSuffix (suffix : String) :
    Parted suffix (splitSuffix suffix).1 (splitSuffix suffix).2 := by
  have whole := List.takeWhile_append_dropWhile (p := (· != '.')) (l := suffix.toList.reverse)
  have noDot : '.' ∉ suffix.toList.reverse.takeWhile (· != '.') := by
    intro dot
    simpa using List.mem_takeWhile_imp dot
  have forward := congrArg List.reverse whole
  rw [List.reverse_append, List.reverse_reverse] at forward
  unfold splitSuffix
  simp only
  cases rest : suffix.toList.reverse.dropWhile (· != '.') with
  | nil =>
      rw [rest, List.reverse_nil, List.nil_append] at forward
      refine ⟨String.append_empty, Or.inl ⟨rfl, fun dot => noDot ?_⟩⟩
      rw [← List.mem_reverse, forward]
      exact List.mem_of_mem_tail dot
  | cons first label =>
      have dot : first = '.' := by
        have stops := List.head?_dropWhile_not (· != '.') suffix.toList.reverse
        rw [rest] at stops
        simpa using stops
      subst dot
      rw [rest, List.reverse_cons, List.append_assoc, List.singleton_append] at forward
      simp only
      split
      · rename_i empty
        rw [List.isEmpty_iff.mp empty, List.reverse_nil, List.nil_append] at forward
        refine ⟨String.append_empty, Or.inl ⟨rfl, fun dot => noDot ?_⟩⟩
        rw [← forward, List.tail_cons, List.mem_reverse] at dot
        exact dot
      · rename_i nonempty
        refine ⟨?_, Or.inr ⟨?_, _, String.toList_ofList, ?_⟩⟩
        · rw [← String.toList_inj, String.toList_append, String.toList_ofList, String.toList_ofList]
          exact forward
        · rw [Ne, ← String.toList_inj, String.toList_ofList, String.toList_empty,
            List.reverse_eq_nil_iff, ← List.isEmpty_iff]
          exact nonempty
        · rw [List.mem_reverse]
          exact noDot

theorem splitSuffix_append (suffix : String) :
    (splitSuffix suffix).1 ++ (splitSuffix suffix).2 = suffix :=
  (parted_splitSuffix suffix).whole

/-- What tells a candidate from the others. -/
def mark : Nat → List Char
  | 0 => []
  | further + 1 => '-' :: (toString (further + 2)).toList

theorem mark_injective {first second : Nat} (same : mark first = mark second) : first = second := by
  cases first with
  | zero =>
      cases second with
      | zero => rfl
      | succ second => cases same
  | succ first =>
      cases second with
      | zero => cases same
      | succ second =>
          have numbers := toString_injective (String.toList_injective (List.cons.inj same).2)
          omega

theorem not_mem_mark {character : Char} (hyphen : character ≠ '-')
    (digit : character.isDigit = false) (tries : Nat) : character ∉ mark tries := by
  cases tries with
  | zero => exact List.not_mem_nil
  | succ further =>
      rw [mark, List.mem_cons, not_or, Nat.toString_eq_ofList_toDigits, String.toList_ofList]
      refine ⟨hyphen, fun member => ?_⟩
      rw [Nat.isDigit_of_mem_toDigits (by decide) (by decide) member] at digit
      cases digit

/-- The mark of a candidate stands between the label of the suffix and its extension. -/
theorem toList_candidate (name : OutputName) (tries : Nat) :
    (name.candidate tries).toList = name.stem.toList ++ (splitSuffix name.suffix).1.toList ++
      mark tries ++ (splitSuffix name.suffix).2.toList := by
  cases tries with
  | zero =>
      have parts := congrArg String.toList (splitSuffix_append name.suffix)
      rw [String.toList_append] at parts
      rw [candidate, plain, String.toList_append, mark, List.append_nil, List.append_assoc, parts]
  | succ further =>
      have written : "-".toList = ['-'] := by decide
      simp [candidate, numbered, mark, written]

/-- What stands in a candidate comes from the stem, from the suffix or from its number. -/
theorem not_mem_candidate {name : OutputName} {character : Char}
    (stem : character ∉ name.stem.toList) (suffix : character ∉ name.suffix.toList)
    (hyphen : character ≠ '-') (digit : character.isDigit = false) (tries : Nat) :
    character ∉ (name.candidate tries).toList := by
  rw [← splitSuffix_append name.suffix, String.toList_append, List.mem_append, not_or] at suffix
  rw [toList_candidate]
  simp only [List.mem_append, not_or]
  exact ⟨⟨⟨stem, suffix.1⟩, not_mem_mark hyphen digit tries⟩, suffix.2⟩

theorem hyphen_mem_candidate {name : OutputName} (suffix : '-' ∈ name.suffix.toList)
    (tries : Nat) : '-' ∈ (name.candidate tries).toList := by
  rw [← splitSuffix_append name.suffix, String.toList_append, List.mem_append] at suffix
  rw [toList_candidate]
  simp only [List.mem_append]
  exact suffix.elim (fun label => Or.inl (Or.inl (Or.inr label))) Or.inr

/-- A suffix with a label, which is longer than the mark of a copy, and an extension. -/
structure Labelled (suffix : String) : Prop where
  long : SourceFile.temporaryMark.length < (splitSuffix suffix).1.toList.length
  hyphen : (splitSuffix suffix).1.toList.head? = some '-'
  dotted : (splitSuffix suffix).2.toList.head? = some '.'
  noDot : '.' ∉ (splitSuffix suffix).2.toList.tail

theorem Labelled.extension {suffix : String} (labelled : Labelled suffix) :
    (splitSuffix suffix).2.toList = '.' :: (splitSuffix suffix).2.toList.tail := by
  have dotted := labelled.dotted
  cases written : (splitSuffix suffix).2.toList with
  | nil =>
      rw [written] at dotted
      cases dotted
  | cons first extension =>
      rw [written] at dotted
      rw [Option.some.inj dotted, List.tail_cons]

/-- The copy of a source is called like no candidate with the stem of the source, which is followed
by more than the mark that stands in front of the copy. -/
theorem copy_ne_candidate {suffix : String} (labelled : Labelled suffix) (source : String)
    (tries : Nat) : SourceFile.temporaryMark ++ source ≠
      (OutputName.mk (Path.splitName source).1 suffix).candidate tries := by
  intro same
  have whole := toList_candidate (OutputName.mk (Path.splitName source).1 suffix) tries
  rw [← same, String.toList_append, labelled.extension] at whole
  have long := labelled.long
  have mark : SourceFile.temporaryMark.toList.length = SourceFile.temporaryMark.length :=
    String.length_toList
  rcases Path.splitName_cases source with plain | ⟨before, extension, noDot, spelled, split⟩
  · rw [plain] at whole
    have lengths := congrArg List.length whole
    simp only [List.length_append, List.length_cons] at lengths
    omega
  · rw [split, spelled, ← List.append_assoc, String.toList_ofList] at whole
    have lengths := congrArg List.length whole
    rw [Path.lastDot_unique noDot labelled.noDot whole] at lengths
    simp only [List.length_append, List.length_cons] at lengths
    omega

/-- And no copy is called like one without a stem. -/
theorem copy_ne_candidate_of_no_stem {suffix : String} (labelled : Labelled suffix)
    (source : String) (tries : Nat) :
    SourceFile.temporaryMark ++ source ≠ (OutputName.mk "" suffix).candidate tries := by
  intro same
  have whole := toList_candidate (OutputName.mk "" suffix) tries
  have hyphen := labelled.hyphen
  have marked : SourceFile.temporaryMark.toList.head? = some '.' := by decide
  rw [← same, String.toList_append] at whole
  have heads := congrArg List.head? whole
  simp only [String.toList_empty, List.nil_append, List.head?_append, hyphen, marked,
    Option.some_or, Option.some.injEq] at heads
  exact absurd heads (by decide)

/-! ### Names for files -/

/-- A stem and a suffix whose names are names of files, and not steps. -/
structure NamesFiles (name : OutputName) : Prop where
  separator : '/' ∉ name.stem.toList ∧ '/' ∉ name.suffix.toList
  null : '\x00' ∉ name.stem.toList ∧ '\x00' ∉ name.suffix.toList
  hyphen : '-' ∈ name.suffix.toList

namespace NamesFiles

variable {name : OutputName}

theorem not_null (files : name.NamesFiles) (tries : Nat) :
    '\x00' ∉ (name.candidate tries).toList :=
  not_mem_candidate files.null.1 files.null.2 (by decide) (by decide) tries

theorem shown (files : name.NamesFiles) (tries : Nat) :
    (name.candidate tries).toList ≠ [] ∧ (name.candidate tries).toList ≠ ['.'] ∧
      '/' ∉ (name.candidate tries).toList := by
  have hyphen := hyphen_mem_candidate files.hyphen tries
  refine ⟨List.ne_nil_of_mem hyphen, ?_, ?_⟩
  · intro dot
    rw [dot] at hyphen
    simp at hyphen
  · exact not_mem_candidate files.separator.1 files.separator.2 (by decide) (by decide) tries

theorem downward (files : name.NamesFiles) (tries : Nat) : name.candidate tries ≠ ".." := by
  intro upward
  have hyphen := hyphen_mem_candidate files.hyphen tries
  rw [upward] at hyphen
  exact absurd hyphen (by decide)

/-- Names of files lead below a directory. -/
theorem join (files : name.NamesFiles) (directory : Path) (tries : Nat) :
    directory.join (Path.parse (name.candidate tries)) =
      directory.child (name.candidate tries) := by
  rw [Path.parse_name (files.shown tries)]
  rfl

end NamesFiles

end ListingAtlas.OutputName
