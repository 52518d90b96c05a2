import Mathlib.Data.List.TakeWhile
import ListingAtlas.Command.Compiler
import ListingAtlas.Proofs.Text.Classes
import ListingAtlas.Proofs.Text.MadeOf

/-!
Where a program lies, and what its family is taken from. A program is recognised by the last part of
its path, so that the directory it lies in changes nothing, as long as there is such a part: the two
parts behind a doubled separator are the host and the share of a network path, hence its drive, and
a path that is all drive has no last part.
-/

namespace ListingAtlas.Command

/-! ### Marks of a network path -/

/-- A path begins as a long network path does, in any case. -/
def OpensLong (path : List Char) : Prop :=
  (path.take 8).map Char.toUpper = longShareMark.map Char.toUpper

instance : DecidablePred OpensLong := fun _path => inferInstanceAs (Decidable (_ = _))

/-- A path names no more than a host and a share: behind the mark of a network path there is at most
one more separator. -/
def NamesShare (path : List Char) : Prop :=
  ['\\', '\\'] <+: path ∧ (path.drop 2).count '\\' ≤ 1 ∨
    OpensLong path ∧ (path.drop 8).count '\\' ≤ 1

instance : DecidablePred NamesShare := fun _path => inferInstanceAs (Decidable (_ ∨ _))

theorem toUpper_eq_backslash_iff {character : Char} :
    character.toUpper = '\\' ↔ character = '\\' := by
  constructor
  · intro upper
    unfold Char.toUpper at upper
    split at upper
    · rename_i lower
      -- The bar, which is the code point this far behind the backslash, is no letter.
      have value := congrArg Char.val upper
      dsimp only at value
      have bar : character.val = '\\'.val - ('A'.val - 'a'.val) := by
        rw [← value, UInt32.add_sub_cancel]
      rw [bar] at lower
      exact absurd lower.2 (by decide)
    · exact upper
  · intro backslash
    rw [backslash]
    rfl

theorem count_map_toUpper (text : List Char) :
    (text.map Char.toUpper).count '\\' = text.count '\\' := by
  unfold List.count
  rw [List.countP_map]
  apply List.countP_congr
  intro character _member
  simp [toUpper_eq_backslash_iff]

namespace OpensLong

variable {path name : List Char}

theorem getElem?_eq_backslash (long : OpensLong path) (place : Nat) (within : place < 8)
    (marked : longShareMark[place]? = some '\\') : path[place]? = some '\\' := by
  have same := congrArg (fun text : List Char => text[place]?) long
  simp only [List.getElem?_map, List.getElem?_take, within, if_true, marked] at same
  obtain ⟨character, here, upper⟩ := Option.map_eq_some_iff.mp same
  rw [here, toUpper_eq_backslash_iff.mp upper]

theorem exists_eq_cons (long : OpensLong path) : ∃ rest, path = '\\' :: '\\' :: rest := by
  have first := long.getElem?_eq_backslash 0 (by decide) (by decide)
  have second := long.getElem?_eq_backslash 1 (by decide) (by decide)
  match path with
  | [] => cases first
  | [_one] => cases second
  | one :: two :: rest =>
      cases first
      cases second
      exact ⟨rest, rfl⟩

/-- A long mark is no short one with one more separator. -/
theorem two_le_count (long : OpensLong path) : 2 ≤ (path.drop 2).count '\\' := by
  have marks : ((path.take 8).drop 2).count '\\' = 2 := by
    rw [← count_map_toUpper, List.map_drop, long]
    decide
  have part : ((path.take 8).drop 2).Sublist (path.drop 2) := (List.take_sublist 8 path).drop 2
  have := part.count_le '\\'
  omega

theorem eight_le_length (long : OpensLong path) : 8 ≤ path.length := by
  have last := long.getElem?_eq_backslash 7 (by decide) (by decide)
  have := (List.getElem?_eq_some_iff.mp last).1
  omega

theorem append (long : OpensLong path) (name : List Char) : OpensLong (path ++ name) := by
  unfold OpensLong
  rw [List.take_append_of_le_length long.eight_le_length]
  exact long

/-- The mark ends with a backslash, so that it ends in front of a name without one. -/
theorem of_append (bare : '\\' ∉ name) (long : OpensLong (path ++ name)) : OpensLong path := by
  have last := long.getElem?_eq_backslash 7 (by decide) (by decide)
  have within : 7 < path.length := by
    by_contra behind
    rw [List.getElem?_append_right (by omega)] at last
    exact bare (List.mem_of_getElem? last)
  unfold OpensLong at long
  rw [List.take_append_of_le_length (by omega)] at long
  exact long

end OpensLong

/-! ### What is no drive -/

section

variable {directory front host name rest : List Char}

theorem all_ne_backslash (bare : '\\' ∉ name) : ∀ character ∈ name, (character != '\\') = true := by
  intro character member
  rw [bne_iff_ne]
  exact ne_of_mem_of_not_mem member bare

theorem fromBackslash_eq_nil (bare : '\\' ∉ name) : fromBackslash name = [] :=
  List.dropWhile_eq_nil_iff.mpr (all_ne_backslash bare)

theorem fromBackslash_append_backslash (bare : '\\' ∉ name) :
    fromBackslash (name ++ '\\' :: rest) = '\\' :: rest :=
  Text.dropWhile_of_stop (List.all_eq_true.mpr (all_ne_backslash bare)) rfl

theorem afterShare_append_backslash (bare : '\\' ∉ host) :
    afterShare (host ++ '\\' :: rest) = fromBackslash rest := by
  unfold afterShare
  rw [fromBackslash_append_backslash bare]

theorem afterShare_eq_nil (few : rest.count '\\' ≤ 1) : afterShare rest = [] := by
  by_cases some : '\\' ∈ rest
  · obtain ⟨host, share, rfl, bare⟩ := List.eq_append_cons_of_mem some
    rw [afterShare_append_backslash bare]
    apply fromBackslash_eq_nil
    rw [List.count_append, List.count_cons_self] at few
    rw [← List.count_eq_zero]
    omega
  · unfold afterShare
    rw [fromBackslash_eq_nil some]

theorem exists_afterShare_eq (some : '\\' ∈ front) :
    ∃ inner, afterShare (front ++ '\\' :: name) = inner ++ '\\' :: name := by
  obtain ⟨host, share, rfl, bare⟩ := List.eq_append_cons_of_mem some
  rw [List.append_assoc, List.cons_append, afterShare_append_backslash bare]
  exact ⟨_, Text.dropWhile_append_stop share rfl⟩

/-- What is left of a path that ends with a backslash has one more to give if two are left. -/
theorem exists_afterShare_of_count (part : rest <:+ directory ++ ['\\'])
    (many : 2 ≤ rest.count '\\') :
    ∃ inner, afterShare (rest ++ name) = inner ++ '\\' :: name := by
  rcases List.suffix_concat_iff.mp part with rfl | ⟨front, rfl, _inside⟩
  · cases many
  · rw [List.count_append, List.count_singleton_self] at many
    rw [List.append_assoc]
    apply exists_afterShare_eq
    rw [← List.count_pos_iff]
    omega

theorem fileName_of_withoutDrive {path : List Char} (bare : '\\' ∉ name)
    (driveless : withoutDrive path = front ++ '\\' :: name) : fileName path = name := by
  have bareBack : '\\' ∉ name.reverse := mt List.mem_reverse.mp bare
  unfold fileName
  rw [driveless, List.reverse_append, List.reverse_cons, List.append_assoc, List.singleton_append,
    Text.takeWhile_of_stop (List.all_eq_true.mpr (all_ne_backslash bareBack)) rfl,
    List.reverse_reverse]

theorem withoutDrive_of_long {path : List Char} (long : OpensLong path) :
    withoutDrive path = afterShare (path.drop 8) := by
  obtain ⟨rest, rfl⟩ := long.exists_eq_cons
  unfold withoutDrive
  exact if_pos (beq_iff_eq.mpr long)

theorem withoutDrive_of_short (bare : '\\' ∉ name) (short : ¬ OpensLong (['\\', '\\'] ++ rest)) :
    withoutDrive (['\\', '\\'] ++ rest ++ name) = afterShare (rest ++ name) := by
  unfold withoutDrive
  exact if_neg (mt beq_iff_eq.mp (mt (OpensLong.of_append bare) short))

theorem count_append_name (bare : '\\' ∉ name) : (rest ++ name).count '\\' = rest.count '\\' := by
  rw [List.count_append, List.count_eq_zero.mpr bare, Nat.add_zero]

/-- A network path and no more is all drive. -/
theorem withoutDrive_of_namesShare {path : List Char} (bare : '\\' ∉ name)
    (share : NamesShare path) : withoutDrive (path ++ name) = [] := by
  by_cases long : OpensLong path
  · rw [withoutDrive_of_long (long.append name),
      List.drop_append_of_le_length long.eight_le_length]
    apply afterShare_eq_nil
    rw [count_append_name bare]
    rcases share with ⟨_marked, few⟩ | ⟨_long, few⟩
    · have := long.two_le_count
      omega
    · exact few
  · rcases share with ⟨⟨rest, rfl⟩, few⟩ | ⟨isLong, _few⟩
    · rw [withoutDrive_of_short bare long]
      apply afterShare_eq_nil
      rw [count_append_name bare]
      exact few
    · exact absurd isLong long

theorem withoutDrive_of_unmarked {path : List Char} (unmarked : ¬ ['\\', '\\'] <+: path) :
    withoutDrive path = path ∨ ∃ letter, path = letter :: ':' :: withoutDrive path := by
  unfold withoutDrive
  split
  · exact absurd ⟨_, rfl⟩ unmarked
  · exact .inr ⟨_, rfl⟩
  · exact .inl rfl

theorem unmarked_append (bare : '\\' ∉ name) (unmarked : ¬ ['\\', '\\'] <+: directory ++ ['\\']) :
    ¬ ['\\', '\\'] <+: directory ++ ['\\'] ++ name := by
  intro marked
  cases directory with
  | nil =>
      obtain ⟨rest, whole⟩ := marked
      have named : '\\' :: rest = name := (List.cons.inj whole).2
      rw [← named] at bare
      exact bare List.mem_cons_self
  | cons first inner =>
      apply unmarked
      apply List.prefix_of_prefix_length_le marked (List.prefix_append _ _)
      simp

/-- A colon behind a letter stands in front of the separator, since it is not in the name. -/
theorem exists_behind_colon {letter : Char} (colonless : ':' ∉ name)
    (whole : directory ++ ['\\'] ++ name = letter :: ':' :: rest) :
    ∃ front, rest = front ++ '\\' :: name := by
  match directory with
  | [] =>
      have named : name = ':' :: rest := (List.cons.inj whole).2
      rw [named] at colonless
      exact absurd List.mem_cons_self colonless
  | [_one] =>
      injection whole with _first behind
      cases behind
  | _one :: _two :: inner =>
      injection whole with _first behind
      injection behind with _second behind
      refine ⟨inner, ?_⟩
      rw [← behind]
      exact List.append_assoc inner ['\\'] name

/-- What lies deeper than a network path keeps its last part. -/
theorem exists_withoutDrive_eq (bare : '\\' ∉ name) (colonless : ':' ∉ name)
    (deeper : ¬ NamesShare (directory ++ ['\\'])) :
    ∃ front, withoutDrive (directory ++ ['\\'] ++ name) = front ++ '\\' :: name := by
  by_cases long : OpensLong (directory ++ ['\\'])
  · rw [withoutDrive_of_long (long.append name),
      List.drop_append_of_le_length long.eight_le_length]
    apply exists_afterShare_of_count (List.drop_suffix 8 _)
    by_contra few
    exact deeper (.inr ⟨long, by omega⟩)
  by_cases marked : ['\\', '\\'] <+: directory ++ ['\\']
  · obtain ⟨rest, whole⟩ := marked
    rw [← whole] at long deeper ⊢
    rw [withoutDrive_of_short bare long]
    apply exists_afterShare_of_count ⟨_, whole⟩
    by_contra few
    exact deeper (.inl ⟨⟨rest, rfl⟩, Nat.le_of_lt_succ (Nat.lt_of_not_le few)⟩)
  rcases withoutDrive_of_unmarked (unmarked_append bare marked) with same | ⟨letter, whole⟩
  · refine ⟨directory, ?_⟩
    rw [same, List.append_assoc, List.singleton_append]
  · exact exists_behind_colon colonless whole

theorem fileName_append (bare : '\\' ∉ name) (colonless : ':' ∉ name) :
    fileName (directory ++ ['\\'] ++ name) =
      if NamesShare (directory ++ ['\\']) then [] else name := by
  split
  · rename_i share
    unfold fileName
    rw [withoutDrive_of_namesShare bare share]
    rfl
  · rename_i deeper
    obtain ⟨front, driveless⟩ := exists_withoutDrive_eq bare colonless deeper
    exact fileName_of_withoutDrive bare driveless

theorem fileName_eq_self (bare : '\\' ∉ name) (colonless : ':' ∉ name) : fileName name = name := by
  have driveless : withoutDrive name = name := by
    have unmarked : ¬ ['\\', '\\'] <+: name := by
      rintro ⟨rest, rfl⟩
      exact bare List.mem_cons_self
    rcases withoutDrive_of_unmarked unmarked with same | ⟨letter, whole⟩
    · exact same
    · rw [whole] at colonless
      simp at colonless
  have bareBack : '\\' ∉ name.reverse := mt List.mem_reverse.mp bare
  unfold fileName
  rw [driveless, List.takeWhile_eq_self_iff.mpr (all_ne_backslash bareBack), List.reverse_reverse]

end

/-! ### Programs in a directory -/

/-- What parts a path, which is in no name of a file. -/
def pathMarks : List Char := ['/', '\\', ':']

theorem windowsSeparators_append (front back : List Char) :
    windowsSeparators (front ++ back) = windowsSeparators front ++ windowsSeparators back :=
  List.map_append

theorem windowsSeparators_of_not_mem {name : List Char} (slashless : '/' ∉ name) :
    windowsSeparators name = name := by
  unfold windowsSeparators
  conv_rhs => rw [← List.map_id name]
  apply List.map_congr_left
  intro character member
  rw [if_neg]
  · rfl
  · rw [beq_iff_eq]
    exact ne_of_mem_of_not_mem member slashless

theorem windowsSeparators_of_mem {separator : String} (either : separator ∈ ["/", "\\"]) :
    windowsSeparators separator.toList = ['\\'] := by
  revert separator
  decide

theorem detectCompiler_eq_of_fileName {program other : String}
    (same : fileName (windowsSeparators program.toList) =
      fileName (windowsSeparators other.toList)) :
    detectCompiler program = detectCompiler other := by
  unfold detectCompiler
  rw [same]

theorem detectCompiler_empty : detectCompiler "" = .unknown := by decide

/-- One program in one directory, by either separator. -/
theorem detectCompiler_append {directory separator name : String}
    (either : separator ∈ ["/", "\\"]) (plain : MadeOf (· ∉ pathMarks) name) :
    detectCompiler (directory ++ separator ++ name) =
      if NamesShare (windowsSeparators directory.toList ++ ['\\']) then .unknown
      else detectCompiler name := by
  have slashless : '/' ∉ name.toList := fun member => plain _ member (by decide)
  have bare : '\\' ∉ name.toList := fun member => plain _ member (by decide)
  have colonless : ':' ∉ name.toList := fun member => plain _ member (by decide)
  have shown := windowsSeparators_of_not_mem slashless
  have last : fileName (windowsSeparators (directory ++ separator ++ name).toList) =
      if NamesShare (windowsSeparators directory.toList ++ ['\\']) then [] else name.toList := by
    rw [String.toList_append, String.toList_append, windowsSeparators_append,
      windowsSeparators_append, windowsSeparators_of_mem either, shown]
    exact fileName_append bare colonless
  by_cases share : NamesShare (windowsSeparators directory.toList ++ ['\\'])
  · rw [if_pos share] at last ⊢
    exact (detectCompiler_eq_of_fileName last).trans detectCompiler_empty
  · rw [if_neg share] at last ⊢
    apply detectCompiler_eq_of_fileName
    rw [last, shown, fileName_eq_self bare colonless]

/-- A program is recognised by its name, in whatever directory it lies, written with separators of
either kind, unless what stands up to the name is no more than a network path. There it is never
recognised, so that just a program that is not recognised by its name is the same there. -/
theorem detectCompiler_in_directory (directory name : String)
    (plain : MadeOf (· ∉ pathMarks) name) :
    (∀ separator ∈ ["/", "\\"], detectCompiler (directory ++ separator ++ name) =
      if NamesShare (windowsSeparators directory.toList ++ ['\\']) then .unknown
      else detectCompiler name) ∧
    ((∀ separator ∈ ["/", "\\"],
        detectCompiler (directory ++ separator ++ name) = detectCompiler name) ↔
      (NamesShare (windowsSeparators directory.toList ++ ['\\']) →
        detectCompiler name = .unknown)) := by
  refine ⟨fun separator either => detectCompiler_append either plain, ?_⟩
  constructor
  · intro same share
    rw [← same "/" (by decide), detectCompiler_append (by decide) plain, if_pos share]
  · intro unknown separator either
    rw [detectCompiler_append either plain]
    split
    · rename_i share
      exact (unknown share).symm
    · rfl

/-- A compiler behind a drive, blanks and separators of both kinds. -/
theorem detectCompiler_in_directory_mixed :
    MadeOf (· ∉ pathMarks) "CL.exe" ∧
      detectCompiler ("C:\\Program Files/MSVC" ++ "/" ++ "CL.exe") = .msvc := by
  have plain : MadeOf (· ∉ pathMarks) "CL.exe" := by decide
  refine ⟨plain, ?_⟩
  rw [(detectCompiler_in_directory _ _ plain).1 "/" (by decide), if_neg (by decide)]
  decide

/-- Behind a doubled separator a directory and the program in it are a host and a share. -/
theorem doubled_separator_hides_program :
    MadeOf (· ∉ pathMarks) "cl.exe" ∧
      detectCompiler "cl.exe" = .msvc ∧ detectCompiler ("/bin" ++ "/" ++ "cl.exe") = .msvc ∧
      detectCompiler ("//bin" ++ "/" ++ "cl.exe") = .unknown := by
  decide

end ListingAtlas.Command
