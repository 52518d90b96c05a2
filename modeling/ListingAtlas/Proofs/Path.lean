import Mathlib.Data.List.TakeWhile
import ListingAtlas.Path
import ListingAtlas.SourceFile

/-!
Paths and the texts that spell them. A path that comes from a text is told by one again, and so are
the paths that are taken from it.
-/

namespace ListingAtlas.Path

/-! ### Names between separators -/

theorem splitNames_eq_splitOn (text : List Char) : splitNames text = text.splitOn '/' := by
  fun_induction splitNames text with
  | case1 => rfl
  | case2 rest ih => rw [ih, List.splitOn_cons_eq_if_modifyHead, if_pos (beq_self_eq_true '/')]
  | case3 character rest notSeparator none ih =>
      rw [none] at ih
      exact absurd ih.symm (List.splitOn_ne_nil _ _)
  | case4 character rest notSeparator name names same ih =>
      have other : ¬ (character == '/') = true := fun equal => notSeparator (eq_of_beq equal)
      rw [List.splitOn_cons_eq_if_modifyHead, if_neg other, ← ih, same, List.modifyHead_cons]

theorem not_mem_of_mem_splitNames (text : List Char) :
    ∀ name ∈ splitNames text, '/' ∉ name := by
  fun_induction splitNames text with
  | case1 => simp
  | case2 rest ih =>
      intro name member
      rcases List.mem_cons.mp member with rfl | later
      · exact List.not_mem_nil
      · exact ih name later
  | case3 character rest notSeparator none ih =>
      intro name member
      rw [List.mem_singleton] at member
      rw [member, List.mem_singleton]
      exact fun separator => notSeparator separator.symm
  | case4 character rest notSeparator name names same ih =>
      rw [same] at ih
      intro other member
      rcases List.mem_cons.mp member with rfl | later
      · rw [List.mem_cons, not_or]
        exact ⟨fun separator => notSeparator separator.symm, ih name List.mem_cons_self⟩
      · exact ih other (List.mem_cons_of_mem name later)

/-! ### Paths that a text spells -/

/-- Every name could stand between two separators and not be dropped. -/
structure Spelled (path : Path) : Prop where
  root : path.root = "" ∨ path.root = "/" ∨ path.root = "//"
  parts : ∀ part ∈ path.parts, part.toList ≠ [] ∧ part.toList ≠ ['.'] ∧ '/' ∉ part.toList

/-- The name that stands between two separators, if there is one. -/
def partOf? (name : List Char) : Option String :=
  if name == [] || name == ['.'] then none else some (String.ofList name)

theorem parts_parse (text : String) :
    (parse text).parts = (splitNames text.toList).filterMap partOf? :=
  rfl

theorem spelled_parse (text : String) : (parse text).Spelled where
  root := by
    change rootOf text.toList = "" ∨ rootOf text.toList = "/" ∨ rootOf text.toList = "//"
    unfold rootOf
    split <;> simp
  parts := by
    intro part member
    rw [parts_parse] at member
    obtain ⟨name, among, kept⟩ := List.mem_filterMap.mp member
    unfold partOf? at kept
    split at kept
    · cases kept
    · rename_i shown
      rw [Option.some.injEq] at kept
      rw [← kept, String.toList_ofList]
      rw [Bool.or_eq_true, beq_iff_eq, beq_iff_eq, not_or] at shown
      exact ⟨shown.1, shown.2, not_mem_of_mem_splitNames _ name among⟩

theorem filterMap_partOf? {parts : List String}
    (shown : ∀ part ∈ parts, part.toList ≠ [] ∧ part.toList ≠ ['.'] ∧ '/' ∉ part.toList) :
    (parts.map String.toList).filterMap partOf? = parts := by
  induction parts with
  | nil => rfl
  | cons part parts ih =>
      have here := shown part List.mem_cons_self
      have kept : partOf? part.toList = some part := by
        unfold partOf?
        rw [if_neg (by simp [here.1, here.2.1]), String.ofList_toList]
      rw [List.map_cons, List.filterMap_cons_some kept,
        ih fun other member => shown other (List.mem_cons_of_mem part member)]

/-- Of the first characters, only whether they are separators matters. -/
theorem rootOf_cons (first : Char) (rest : List Char) :
    rootOf (first :: rest) =
      if first = '/' then
        if rest.head? = some '/' ∧ rest.tail.head? ≠ some '/' then "//" else "/"
      else "" := by
  unfold rootOf
  split
  · rename_i tail whole
    obtain ⟨rfl, rfl⟩ := List.cons.inj whole
    simp
  · rename_i tail other whole
    obtain ⟨rfl, rfl⟩ := List.cons.inj whole
    have third : tail.head? ≠ some '/' := by
      intro separator
      obtain ⟨more, rfl⟩ := List.head?_eq_some_iff.mp separator
      exact other more rfl
    simp [third]
  · rename_i tail _three other whole
    obtain ⟨rfl, rfl⟩ := List.cons.inj whole
    have second : rest.head? ≠ some '/' := by
      intro separator
      obtain ⟨more, rfl⟩ := List.head?_eq_some_iff.mp separator
      exact other more rfl
    simp [second]
  · rename_i other
    rw [if_neg fun separator => other rest (congrArg (· :: rest) separator)]

/-- The root is told by what stands in front of the first name. -/
theorem rootOf_append_name (front : List Char) {rest : List Char} (name : rest.head? ≠ some '/') :
    rootOf (front ++ rest) = rootOf front := by
  rcases front with _ | ⟨first, _ | ⟨second, _ | ⟨third, front⟩⟩⟩
  · cases rest with
    | nil => rfl
    | cons first rest =>
        rw [List.nil_append, rootOf_cons, if_neg fun same => name (congrArg some same)]
        rfl
  · simp [rootOf_cons, name]
  · simp [rootOf_cons, name]
  · simp [rootOf_cons]

/-- A root in front of a name is the root of the whole. -/
theorem rootOf_append {root : String} (known : root = "" ∨ root = "/" ∨ root = "//")
    {first : Char} (plain : first ≠ '/') (rest : List Char) :
    rootOf (root.toList ++ first :: rest) = root := by
  have name : (first :: rest).head? ≠ some '/' := fun same => plain (Option.some.inj same)
  rw [rootOf_append_name root.toList name]
  rcases known with rfl | rfl | rfl <;> rfl

theorem filterMap_splitNames_root {root : String}
    (known : root = "" ∨ root = "/" ∨ root = "//") (rest : List Char) :
    (splitNames (root.toList ++ rest)).filterMap partOf? =
      (splitNames rest).filterMap partOf? := by
  rcases known with rfl | rfl | rfl <;> rfl

theorem Spelled.parse_toString {path : Path} (spelled : path.Spelled) :
    parse path.toString = path := by
  obtain ⟨root, parts⟩ := path
  have known : root = "" ∨ root = "/" ∨ root = "//" := spelled.root
  have shown : ∀ part ∈ parts, part.toList ≠ [] ∧ part.toList ≠ ['.'] ∧ '/' ∉ part.toList :=
    spelled.parts
  cases parts with
  | nil => rcases known with rfl | rfl | rfl <;> rfl
  | cons part parts =>
      have written : (toString ⟨root, part :: parts⟩).toList =
          root.toList ++ ['/'].intercalate ((part :: parts).map String.toList) := by
        have notHere : ¬ (root.isEmpty && (part :: parts).isEmpty) = true := by simp
        rw [toString, if_neg notHere, String.toList_append, String.toList_intercalate]
        rfl
      have names : splitNames (['/'].intercalate ((part :: parts).map String.toList)) =
          (part :: parts).map String.toList := by
        rw [splitNames_eq_splitOn]
        apply List.splitOn_intercalate
        · intro name member
          obtain ⟨other, among, rfl⟩ := List.mem_map.mp member
          exact (shown other among).2.2
        · simp
      obtain ⟨first, rest, begins⟩ := List.exists_cons_of_ne_nil (shown part List.mem_cons_self).1
      have plain : first ≠ '/' := by
        rintro rfl
        apply (shown part List.mem_cons_self).2.2
        rw [begins]
        exact List.mem_cons_self
      have starts : ∃ more, ['/'].intercalate ((part :: parts).map String.toList) =
          first :: more := by
        rw [List.map_cons, begins]
        cases parts with
        | nil => exact ⟨rest, by simp⟩
        | cons second parts => exact ⟨_, List.intercalate_cons_cons⟩
      obtain ⟨more, starts⟩ := starts
      have sameRoot : (parse (toString ⟨root, part :: parts⟩)).root = root := by
        change rootOf _ = root
        rw [written, starts, rootOf_append known plain]
      have sameParts : (parse (toString ⟨root, part :: parts⟩)).parts = part :: parts := by
        rw [parts_parse, written, filterMap_splitNames_root known, names, filterMap_partOf? shown]
      cases parsed : parse (toString ⟨root, part :: parts⟩) with
      | mk otherRoot otherParts =>
          rw [parsed] at sameRoot sameParts
          rw [← sameRoot, ← sameParts]

/-- A name alone is a path of just this name. -/
theorem parse_name {name : String}
    (shown : name.toList ≠ [] ∧ name.toList ≠ ['.'] ∧ '/' ∉ name.toList) :
    parse name = { root := "", parts := [name] } := by
  let alone : Path := { root := "", parts := [name] }
  have spelled : alone.Spelled := by
    refine ⟨Or.inl rfl, ?_⟩
    intro part member
    rw [List.mem_singleton] at member
    rw [member]
    exact shown
  have written : alone.toString = name := by
    simp [alone, Path.toString]
  rw [← written]
  exact spelled.parse_toString

/-! ### The names in a text -/

/-- The names that a text spells, without those that are dropped. -/
def namesIn (text : List Char) : List String :=
  (splitNames text).filterMap partOf?

theorem parse_eq (text : String) : parse text = ⟨rootOf text.toList, namesIn text.toList⟩ :=
  rfl

@[simp] theorem namesIn_nil : namesIn [] = [] :=
  rfl

@[simp] theorem namesIn_here : namesIn ['.'] = [] :=
  rfl

@[simp] theorem namesIn_upward : namesIn ['.', '.'] = [".."] :=
  rfl

theorem namesIn_separator (front rest : List Char) :
    namesIn (front ++ '/' :: rest) = namesIn front ++ namesIn rest := by
  unfold namesIn
  simp only [splitNames_eq_splitOn, List.splitOn_append_cons_self, List.filterMap_append]

theorem namesIn_name {name : List Char} (plain : '/' ∉ name) :
    namesIn name = (partOf? name).toList := by
  rw [namesIn, splitNames_eq_splitOn, List.splitOn_eq_singleton plain]
  cases kept : partOf? name <;> simp [kept]

theorem namesIn_append_of_closed {front : List Char}
    (closed : front = [] ∨ ∃ before, front = before ++ ['/']) (rest : List Char) :
    namesIn (front ++ rest) = namesIn front ++ namesIn rest := by
  rcases closed with rfl | ⟨before, rfl⟩
  · rfl
  · rw [List.append_assoc, List.singleton_append, namesIn_separator, namesIn_separator, namesIn_nil,
      List.append_nil]

theorem namesIn_append_of_opened (front : List Char) {rest : List Char}
    (opened : rest = [] ∨ ∃ behind, rest = '/' :: behind) :
    namesIn (front ++ rest) = namesIn front ++ namesIn rest := by
  rcases opened with rfl | ⟨behind, rfl⟩
  · rw [List.append_nil]
    exact (List.append_nil _).symm
  · rw [namesIn_separator]
    rfl

/-- A name between separators is written with characters of the text. -/
theorem subset_of_mem_splitNames (text : List Char) : ∀ name ∈ splitNames text, name ⊆ text := by
  fun_induction splitNames text with
  | case1 => simp
  | case2 rest ih =>
      refine List.forall_mem_cons.mpr ⟨List.nil_subset _, fun name later => ?_⟩
      exact List.subset_cons_of_subset _ (ih name later)
  | case3 character rest notSeparator none ih => simp
  | case4 character rest notSeparator name names same ih =>
      rw [same] at ih
      refine List.forall_mem_cons.mpr ⟨List.cons_subset_cons _ (ih name List.mem_cons_self), ?_⟩
      exact fun other later =>
        List.subset_cons_of_subset _ (ih other (List.mem_cons_of_mem name later))

/-- Steps upward are spelled with dots. -/
theorem upward_not_mem_namesIn {text : List Char} (noDot : '.' ∉ text) : ".." ∉ namesIn text := by
  intro upward
  obtain ⟨name, among, kept⟩ := List.mem_filterMap.mp upward
  unfold partOf? at kept
  split at kept
  · cases kept
  · have dots : name = ['.', '.'] := String.ofList_injective (Option.some.inj kept)
    apply noDot
    apply subset_of_mem_splitNames text name among
    rw [dots]
    exact List.mem_cons_self

/-- A path taken some names further. -/
def below (path : Path) (names : List String) : Path :=
  { path with parts := path.parts ++ names }

theorem join_parse_append (directory : Path) {front rest : List Char}
    (closed : front = [] ∨ ∃ before, front = before ++ ['/']) (name : rest.head? ≠ some '/') :
    directory.join (parse (String.ofList (front ++ rest))) =
      (directory.join (parse (String.ofList front))).below (namesIn rest) := by
  rw [parse_eq, parse_eq, String.toList_ofList, String.toList_ofList, rootOf_append_name front name,
    namesIn_append_of_closed closed]
  unfold join isAbsolute below
  split
  · rfl
  · rw [List.append_assoc]

/-! ### Names and their suffixes -/

/-- What follows the last dot. -/
theorem lastDot_unique {before other extension suffix : List Char} (noDot : '.' ∉ extension)
    (noDotToo : '.' ∉ suffix) (same : before ++ '.' :: extension = other ++ '.' :: suffix) :
    extension = suffix := by
  rcases List.append_eq_append_iff.mp same with
    ⟨between, _longer, rest⟩ | ⟨between, _longer, rest⟩
  · cases between with
    | nil => exact (List.cons.inj rest).2
    | cons first between =>
        refine absurd ?_ noDot
        rw [(List.cons.inj rest).2]
        exact List.mem_append_right _ List.mem_cons_self
  · cases between with
    | nil => exact (List.cons.inj rest).2.symm
    | cons first between =>
        refine absurd ?_ noDotToo
        rw [(List.cons.inj rest).2]
        exact List.mem_append_right _ List.mem_cons_self

/-- A name without a suffix, or one with a last dot between two parts of it. -/
theorem splitName_cases (name : String) :
    splitName name = (name, "") ∨
      ∃ before extension, '.' ∉ extension ∧ name.toList = before ++ '.' :: extension ∧
        splitName name = (String.ofList before, String.ofList ('.' :: extension)) := by
  unfold splitName
  simp only
  split
  · exact Or.inl rfl
  · rename_i parted
    rw [Bool.or_eq_true, not_or] at parted
    refine Or.inr ⟨_, _, ?_, ?_, rfl⟩
    · rw [List.mem_reverse]
      intro dot
      simpa using List.mem_takeWhile_imp dot
    · have whole := List.takeWhile_append_dropWhile (p := (· != '.')) (l := name.toList.reverse)
      cases rest : name.toList.reverse.dropWhile (· != '.') with
      | nil =>
          rw [rest] at parted
          exact absurd rfl parted.2
      | cons first others =>
          have dot : first = '.' := by
            have stops := List.head?_dropWhile_not (· != '.') name.toList.reverse
            rw [rest] at stops
            simpa using stops
          rw [rest, dot] at whole
          rw [List.reverse_cons, List.dropLast_concat]
          have forward := congrArg List.reverse whole
          rw [List.reverse_append, List.reverse_cons, List.reverse_reverse,
            List.append_assoc] at forward
          exact forward.symm

/-- A last dot between two parts of a name parts it. -/
theorem splitName_of_dot {name : String} {before extension : List Char}
    (whole : name.toList = before ++ '.' :: extension) (noDot : '.' ∉ extension)
    (front : before ≠ []) (back : extension ≠ []) :
    splitName name = (String.ofList before, String.ofList ('.' :: extension)) := by
  have backwards : name.toList.reverse = extension.reverse ++ '.' :: before.reverse := by
    rw [whole]
    simp
  have passed : ∀ character ∈ extension.reverse, (character != '.') = true := by
    intro character member
    rw [bne_iff_ne]
    intro dot
    exact noDot (dot ▸ List.mem_reverse.mp member)
  unfold splitName
  rw [backwards, List.takeWhile_append_of_pos passed, List.dropWhile_append_of_pos passed]
  simp [front, back]

theorem splitName_append (name : String) :
    (splitName name).1 ++ (splitName name).2 = name := by
  rcases splitName_cases name with plain | ⟨before, extension, _noDot, whole, split⟩
  · rw [plain, String.append_empty]
  · rw [split]
    rw [← String.toList_inj, String.toList_append, String.toList_ofList, String.toList_ofList,
      whole]

end ListingAtlas.Path

namespace ListingAtlas.SourceFile

/-- A copy could be called like a listing only without a suffix or with that of a listing. -/
theorem suffix_of_copy_named_as_listing {name stem : String}
    (same : temporaryMark ++ name = stem ++ listingSuffix) :
    (Path.splitName name).2 = "" ∨ (Path.splitName name).2 = ".asm" := by
  rcases Path.splitName_cases name with plain | ⟨before, extension, noDot, whole, split⟩
  · exact Or.inl (by rw [plain])
  · right
    have listing : listingSuffix.toList = ".asme".toList ++ '.' :: "asm".toList := by decide
    have characters := congrArg String.toList same
    rw [String.toList_append, String.toList_append, whole, listing, ← List.append_assoc,
      ← List.append_assoc] at characters
    have extended := Path.lastDot_unique noDot (by decide) characters
    rw [split, extended]
    rfl

theorem getLast?_temporaryCopy (source : Path) :
    (temporaryCopy source).parts.getLast? = some (temporaryMark ++ source.name) :=
  List.getLast?_concat

theorem getLast?_listing (source buildDirectory : Path) :
    (listing source buildDirectory).parts.getLast? = some (source.stem ++ listingSuffix) :=
  List.getLast?_concat

/-- Neither name is a step upward. -/
theorem copy_ne_upward (name : String) : temporaryMark ++ name ≠ ".." := by
  intro upward
  have lengths := congrArg String.length upward
  rw [String.length_append] at lengths
  have mark : temporaryMark.length = 6 := by decide
  have short : "..".length = 2 := by decide
  omega

theorem listing_ne_upward (stem : String) : stem ++ listingSuffix ≠ ".." := by
  intro upward
  have lengths := congrArg String.length upward
  rw [String.length_append] at lengths
  have ending : listingSuffix.length = 9 := by decide
  have short : "..".length = 2 := by decide
  omega

/-- The copy and the listing of one source are called differently. -/
theorem copy_ne_listing (source : Path) :
    temporaryMark ++ source.name ≠ source.stem ++ listingSuffix := by
  intro same
  have suffix := suffix_of_copy_named_as_listing same
  have lengths := congrArg String.length same
  rw [String.length_append, String.length_append] at lengths
  have whole := congrArg String.length (Path.splitName_append source.name)
  rw [String.length_append] at whole
  have mark : temporaryMark.length = 6 := by decide
  have ending : listingSuffix.length = 9 := by decide
  unfold Path.stem at lengths
  rcases suffix with none | other
  · rw [none] at whole
    have : "".length = 0 := rfl
    omega
  · rw [other] at whole
    have : ".asm".length = 4 := rfl
    omega

/-- Nor is the copy of a supported source called like any listing. -/
theorem copy_ne_listing_of_supported {source : Path} (supported : isSupported source = true)
    (stem : String) : temporaryMark ++ source.name ≠ stem ++ listingSuffix := by
  intro same
  unfold isSupported Path.suffix at supported
  rcases suffix_of_copy_named_as_listing same with none | other
  · rw [none] at supported
    exact absurd supported (by decide)
  · rw [other] at supported
    exact absurd supported (by decide)

end ListingAtlas.SourceFile

namespace ListingAtlas.Path

/-! ### Paths taken from others -/

theorem Spelled.join {path other : Path} (spelled : path.Spelled) (otherSpelled : other.Spelled) :
    (path.join other).Spelled := by
  unfold Path.join
  split
  · exact otherSpelled
  · refine ⟨spelled.root, ?_⟩
    intro part member
    rcases List.mem_append.mp member with among | among
    · exact spelled.parts part among
    · exact otherSpelled.parts part among

theorem Spelled.not_mem_name {path : Path} (spelled : path.Spelled) : '/' ∉ path.name.toList := by
  unfold Path.name
  cases named : path.parts.getLast? with
  | none => exact List.not_mem_nil
  | some name => exact (spelled.parts name (List.mem_of_getLast? named)).2.2

theorem Spelled.child {path : Path} (spelled : path.Spelled) {name : String}
    (shown : name.toList ≠ [] ∧ name.toList ≠ ['.'] ∧ '/' ∉ name.toList) :
    (path.child name).Spelled := by
  refine ⟨spelled.root, ?_⟩
  intro part member
  rcases List.mem_append.mp member with among | last
  · exact spelled.parts part among
  · rw [List.mem_singleton] at last
    rw [last]
    exact shown

theorem Spelled.parent {path : Path} (spelled : path.Spelled) : path.parent.Spelled :=
  ⟨spelled.root, fun part member => spelled.parts part (List.dropLast_subset _ member)⟩

/-- The temporary copy is called like the source, with a mark in front. -/
theorem Spelled.temporaryCopy {source : Path} (spelled : source.Spelled) :
    (SourceFile.temporaryCopy source).Spelled := by
  have mark : SourceFile.temporaryMark.toList = ['.', 'a', 's', 'm', 'e', '-'] := by decide
  apply spelled.parent.child
  rw [String.toList_append, mark]
  refine ⟨by simp, by simp, ?_⟩
  simpa using spelled.not_mem_name

/-- The listing is called like the source, with its suffix in place of another. -/
theorem Spelled.listing {source buildDirectory : Path} (spelled : source.Spelled)
    (directory : buildDirectory.Spelled) : (SourceFile.listing source buildDirectory).Spelled := by
  have suffix : SourceFile.listingSuffix.toList =
      ['.', 'a', 's', 'm', 'e', '.', 'a', 's', 'm'] := by
    decide
  have noSeparator : '/' ∉ source.stem.toList := by
    intro separator
    apply spelled.not_mem_name
    rw [← splitName_append source.name, String.toList_append]
    exact List.mem_append_left _ separator
  apply directory.child
  rw [String.toList_append, suffix]
  refine ⟨by simp, ?_, ?_⟩
  · intro dot
    have lengths := congrArg List.length dot
    simp at lengths
  · simpa using noSeparator

end ListingAtlas.Path
