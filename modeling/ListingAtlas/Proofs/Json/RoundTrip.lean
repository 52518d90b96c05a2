import ListingAtlas.Proofs.Json.Leaves
import ListingAtlas.Proofs.Text.EditorText
import ListingAtlas.Service.Submission

/-!
What is written as a document is read as that document, by recursion over it: a value in front of any
text that ends it, and the items and fields behind one that has been read. The bound of the reader
counts the characters that the writer made.
-/

namespace ListingAtlas.Json

open Number Text

/-! ### Documents -/

mutual

/-- A document as it is read, with every text as an editor would hand it over. -/
def asRead : Json String → Json EditorText
  | .null => .null
  | .bool value => .bool value
  | .int value => .int value
  | .real value => .real value
  | .text value => .text (EditorText.ofString value)
  | .list items => .list (itemsAsRead items)
  | .record fields => .record (fieldsAsRead fields)

def itemsAsRead : List (Json String) → List (Json EditorText)
  | [] => []
  | item :: items => asRead item :: itemsAsRead items

def fieldsAsRead : List (String × Json String) → List (EditorText × Json EditorText)
  | [] => []
  | (name, item) :: fields => (EditorText.ofString name, asRead item) :: fieldsAsRead fields

end

mutual

/-- A document that is read as it is written: it holds no number that is too long or not whole, and
lists and records hold each other no deeper than so many times. -/
def Legible : Nat → Json String → Prop
  | _, .null => True
  | _, .bool _ => True
  | _, .int value => IsShort value
  | _, .real _ => False
  | _, .text _ => True
  | 0, .list _ => False
  | depth + 1, .list items => ItemsLegible depth items
  | 0, .record _ => False
  | depth + 1, .record fields => FieldsLegible depth fields

def ItemsLegible (depth : Nat) : List (Json String) → Prop
  | [] => True
  | item :: items => Legible depth item ∧ ItemsLegible depth items

def FieldsLegible (depth : Nat) : List (String × Json String) → Prop
  | [] => True
  | (_, item) :: fields => Legible depth item ∧ FieldsLegible depth fields

end

/-! ### Layout -/

theorem skipSpace_newLine (level : Nat) (points : Points) :
    skipSpace (scalars (newLine level) ++ points) = skipSpace points := by
  have spaces : ∀ point ∈ scalars (newLine level), isSpace point = true := by
    rw [scalars, List.forall_mem_map, newLine, List.forall_mem_cons]
    refine ⟨rfl, fun character member => ?_⟩
    rw [List.eq_of_mem_replicate member]
    rfl
  exact List.dropWhile_append_of_pos spaces

theorem skipSpace_of_not {character : Char} (shown : isSpace (.scalar character) = false)
    (rest : Points) : skipSpace (.scalar character :: rest) = .scalar character :: rest := by
  rw [skipSpace, List.dropWhile_cons_of_neg]
  rw [shown]
  exact Bool.false_ne_true

/-- A value begins with a character that is no space and ends no list. -/
theorem exists_write_cons (level : Nat) {depth : Nat} {document : Json String}
    (legible : Legible depth document) :
    ∃ first others, write level document = first :: others ∧
      isSpace (.scalar first) = false ∧ first ≠ ']' := by
  match document with
  | .null => exact ⟨_, _, rfl, rfl, by decide⟩
  | .bool true => exact ⟨_, _, rfl, rfl, by decide⟩
  | .bool false => exact ⟨_, _, rfl, rfl, by decide⟩
  | .int value =>
      obtain ⟨digit, digits, written, decimal⟩ := exists_digit_cons value.natAbs
      rw [write, writeInt_eq, written]
      by_cases below : value < 0
      · rw [decide_eq_true below]
        exact ⟨_, _, rfl, rfl, by decide⟩
      · rw [decide_eq_false below]
        exact ⟨digit, digits, rfl, isSpace_digit decimal, ne_of_isDigit decimal rfl⟩
  | .real value => exact absurd legible (by simp [Legible])
  | .text value => exact ⟨_, _, rfl, rfl, by decide⟩
  | .list [] => exact ⟨_, _, rfl, rfl, by decide⟩
  | .list (item :: items) => exact ⟨_, _, rfl, rfl, by decide⟩
  | .record [] => exact ⟨_, _, rfl, rfl, by decide⟩
  | .record ((name, item) :: fields) => exact ⟨_, _, rfl, rfl, by decide⟩

/-- No space stands in front of a value. -/
theorem skipSpace_value {depth : Nat} {document : Json String} (legible : Legible depth document)
    (level : Nat) (rest : Points) :
    skipSpace (scalars (write level document) ++ rest) = scalars (write level document) ++ rest := by
  obtain ⟨first, others, written, shown, _other⟩ := exists_write_cons level legible
  rw [written, scalars_cons, List.cons_append, skipSpace_of_not shown]

theorem two_le_length_writeItems (level : Nat) (items : List (Json String)) :
    2 ≤ (writeItems level items).length := by
  cases items with
  | nil =>
      rw [writeItems, newLine, List.length_append, List.length_cons]
      exact Nat.le_add_left _ _
  | cons item items =>
      rw [writeItems, newLine]
      simp only [List.length_cons, List.length_append]
      omega

theorem two_le_length_writeFields (level : Nat) (fields : List (String × Json String)) :
    2 ≤ (writeFields level fields).length := by
  cases fields with
  | nil =>
      rw [writeFields, newLine, List.length_append, List.length_cons]
      exact Nat.le_add_left _ _
  | cons field fields =>
      rw [writeFields, newLine]
      simp only [List.length_cons, List.length_append]
      omega

theorem endsValue_writeItems (level : Nat) (items : List (Json String)) (rest : Points) :
    EndsValue (scalars (writeItems level items) ++ rest) := by
  cases items with
  | nil =>
      rw [writeItems, scalars_append, List.append_assoc]
      exact endsValue_newLine level _
  | cons item items => exact endsValue_comma _

theorem endsValue_writeFields (level : Nat) (fields : List (String × Json String))
    (rest : Points) : EndsValue (scalars (writeFields level fields) ++ rest) := by
  cases fields with
  | nil =>
      rw [writeFields, scalars_append, List.append_assoc]
      exact endsValue_newLine level _
  | cons field fields => exact endsValue_comma _

/-! ### Values -/

theorem readValue_shown {character : Char} (quote : character ≠ '"') (bracket : character ≠ '[')
    (brace : character ≠ '\x7b') (bound depth : Nat) (rest : Points) :
    readValue (bound + 1) depth (.scalar character :: rest) =
      readScalar (.scalar character :: rest) := by
  have other {mark : Char} {after : Points} (different : character ≠ mark)
      (same : CodePoint.scalar character :: rest = .scalar mark :: after) : False := by
    cases same
    exact different rfl
  rw [readValue]
  · exact fun _after => other quote
  · exact fun _after _none => other bracket
  · exact fun _after _none => other brace
  · exact fun _depth _after _deeper => other bracket
  · exact fun _depth _after _deeper => other brace

theorem readValue_words (bound depth : Nat) (rest : Points) :
    readValue (bound + 1) depth (scalars "null".toList ++ rest) = .ok (.null, rest) ∧
      readValue (bound + 1) depth (scalars "true".toList ++ rest) = .ok (.bool true, rest) ∧
      readValue (bound + 1) depth (scalars "false".toList ++ rest) = .ok (.bool false, rest) := by
  refine ⟨?_, ?_, ?_⟩
  · exact (readValue_shown (by decide) (by decide) (by decide) bound depth _).trans rfl
  · exact (readValue_shown (by decide) (by decide) (by decide) bound depth _).trans rfl
  · exact (readValue_shown (by decide) (by decide) (by decide) bound depth _).trans rfl

theorem readValue_writeInt {value : Int} (short : IsShort value) (bound depth : Nat)
    {rest : Points} (ends : EndsValue rest) :
    readValue (bound + 1) depth (scalars (writeInt value) ++ rest) = .ok (.int value, rest) := by
  have read := readScalar_writeInt short ends
  obtain ⟨digit, digits, written, decimal⟩ := exists_digit_cons value.natAbs
  rw [writeInt_eq, written] at read ⊢
  by_cases below : value < 0
  · rw [decide_eq_true below] at read ⊢
    exact (readValue_shown (by decide) (by decide) (by decide) bound depth _).trans read
  · rw [decide_eq_false below] at read ⊢
    exact (readValue_shown (ne_of_isDigit decimal rfl) (ne_of_isDigit decimal rfl)
      (ne_of_isDigit decimal rfl) bound depth _).trans read

/-- A list is read as the items behind its opening bracket. -/
theorem readValue_list {first : Char} (shown : isSpace (.scalar first) = false)
    (other : first ≠ ']') (level bound depth : Nat) (rest : Points) :
    readValue (bound + 1) (depth + 1)
        (.scalar '[' :: (scalars (newLine level) ++ .scalar first :: rest)) =
      (readItems bound depth (.scalar first :: rest)).map fun (items, rest) =>
        (.list items, rest) := by
  rw [readValue, skipSpace_newLine, skipSpace_of_not shown]
  split
  · rename_i same
    cases same
    exact absurd rfl other
  · rfl

theorem readValue_record (level bound depth : Nat) (name : String) (rest : Points) :
    readValue (bound + 1) (depth + 1)
        (.scalar '\x7b' :: (scalars (newLine level) ++ (scalars (writeString name) ++ rest))) =
      (readFields bound depth (scalars (writeString name) ++ rest)).map fun (fields, rest) =>
        (.record fields, rest) := by
  rw [readValue, skipSpace_newLine]
  rfl

/-- Behind the last item stands the end of the list. -/
theorem readItems_last {bound depth level : Nat} {points rest : Points} {value : Json EditorText}
    (read : readValue bound depth points = .ok (value, scalars (writeItems level []) ++ rest)) :
    readItems (bound + 1) depth points = .ok ([value], rest) := by
  rw [readItems, read]
  simp only
  rw [writeItems, scalars_append, List.append_assoc, skipSpace_newLine]
  rfl

/-- Behind any other item stand a comma, a new line and the next item. -/
theorem readItems_next {bound depth level : Nat} {points rest : Points} {value : Json EditorText}
    {next : Json String} {items : List (Json String)} (legible : Legible depth next)
    (read : readValue bound depth points =
      .ok (value, scalars (writeItems level (next :: items)) ++ rest)) :
    readItems (bound + 1) depth points =
      (readItems bound depth
        (scalars (write (level + 1) next) ++ (scalars (writeItems level items) ++ rest))).map
          fun (values, rest) => (value :: values, rest) := by
  rw [readItems, read]
  simp only
  rw [writeItems, scalars_cons, scalars_append, scalars_append, List.cons_append, List.append_assoc,
    List.append_assoc, skipSpace_of_not rfl]
  simp only
  rw [skipSpace_newLine, skipSpace_value legible]

/-- What is read behind the value of a field: the end of the record, or the next field. -/
def readBehindField (bound depth : Nat) (field : EditorText × Json EditorText) (rest : Points) :
    Read (List (EditorText × Json EditorText)) :=
  match skipSpace rest with
  | .scalar '}' :: rest => .ok ([field], rest)
  | .scalar ',' :: rest =>
      (readFields bound depth (skipSpace rest)).map fun (fields, rest) => (field :: fields, rest)
  | _ => .error .malformed

section

variable {bound depth level : Nat} {name : String} {points rest : Points} {value : Json EditorText}

theorem readFields_cons (within : (writeString name).length ≤ bound + 1)
    (shown : skipSpace points = points) {after : Points}
    (read : readValue bound depth points = .ok (value, after)) :
    readFields (bound + 1) depth (scalars (writeString name) ++ (scalars [':', ' '] ++ points)) =
      readBehindField bound depth (EditorText.ofString name, value) after := by
  obtain ⟨spelled, opened, named⟩ :=
    readString_writeString name (scalars [':', ' '] ++ points) within
  have behind : skipSpace (.scalar ' ' :: points) = points := shown
  rw [opened, readFields, named]
  simp only [scalars_cons, scalars_nil, List.cons_append, List.nil_append]
  rw [skipSpace_of_not rfl]
  simp only
  rw [behind, read]
  rfl

theorem readFields_last (within : (writeString name).length ≤ bound + 1)
    (shown : skipSpace points = points)
    (read : readValue bound depth points = .ok (value, scalars (writeFields level []) ++ rest)) :
    readFields (bound + 1) depth (scalars (writeString name) ++ (scalars [':', ' '] ++ points)) =
      .ok ([(EditorText.ofString name, value)], rest) := by
  rw [readFields_cons within shown read, readBehindField, writeFields, scalars_append,
    List.append_assoc, skipSpace_newLine]
  rfl

theorem readFields_next {other : String} {next : Json String}
    {fields : List (String × Json String)} (within : (writeString name).length ≤ bound + 1)
    (shown : skipSpace points = points)
    (read : readValue bound depth points =
      .ok (value, scalars (writeFields level ((other, next) :: fields)) ++ rest)) :
    readFields (bound + 1) depth (scalars (writeString name) ++ (scalars [':', ' '] ++ points)) =
      (readFields bound depth (scalars (writeString other) ++ (scalars [':', ' '] ++
        (scalars (write (level + 1) next) ++ (scalars (writeFields level fields) ++ rest))))).map
          fun (fields, rest) => ((EditorText.ofString name, value) :: fields, rest) := by
  have behind (points : Points) :
      skipSpace (scalars (newLine (level + 1)) ++ (scalars (writeString other) ++ points)) =
        scalars (writeString other) ++ points := by
    rw [skipSpace_newLine]
    rfl
  rw [readFields_cons within shown read, readBehindField, writeFields, scalars_cons,
    List.cons_append, skipSpace_of_not rfl]
  simp only [scalars_append, List.append_assoc]
  rw [behind]

end

mutual

/-- A value is read as it was written, in front of any text that ends it. -/
theorem readValue_write (level : Nat) {depth bound : Nat} (document : Json String) {rest : Points}
    (legible : Legible depth document) (ends : EndsValue rest)
    (within : (write level document).length < bound) :
    readValue bound depth (scalars (write level document) ++ rest) =
      .ok (asRead document, rest) := by
  obtain ⟨bound, rfl⟩ := Nat.exists_eq_add_one_of_ne_zero (Nat.ne_zero_of_lt within)
  rw [Nat.lt_add_one_iff] at within
  match document, depth with
  | .null, _ => exact (readValue_words bound _ rest).1
  | .bool true, _ => exact (readValue_words bound _ rest).2.1
  | .bool false, _ => exact (readValue_words bound _ rest).2.2
  | .int value, _ =>
      rw [Legible] at legible
      exact readValue_writeInt legible bound _ ends
  | .real value, _ => exact absurd legible (by simp [Legible])
  | .text value, _ =>
      obtain ⟨points, opened, read⟩ := readString_writeString value rest (Nat.le_succ_of_le within)
      rw [write, opened, readValue, read]
      rfl
  | .list items, 0 => exact absurd legible (by simp [Legible])
  | .record fields, 0 => exact absurd legible (by simp [Legible])
  | .list [], depth + 1 => rfl
  | .list (item :: items), depth + 1 =>
      rw [Legible, ItemsLegible] at legible
      obtain ⟨first, others, written, shown, other⟩ := exists_write_cons (level + 1) legible.1
      have least := two_le_length_writeItems level items
      rw [write, newLine] at within
      simp only [List.length_cons, List.length_append] at within
      obtain ⟨bound, rfl⟩ : ∃ less, bound = less + 2 := ⟨bound - 2, by omega⟩
      have read := readValue_write (level + 1) item legible.1
        (endsValue_writeItems level items rest)
        (show (write (level + 1) item).length < bound + 1 by omega)
      have behind := readItems_write level items legible.2 (by omega) read
      rw [written, scalars_cons, List.cons_append] at behind
      rw [write, written, scalars_cons, List.cons_append, scalars_append, scalars_append,
        List.append_assoc, List.append_assoc, scalars_cons, List.cons_append,
        readValue_list shown other, behind]
      rfl
  | .record [], depth + 1 => rfl
  | .record ((name, item) :: fields), depth + 1 =>
      rw [Legible, FieldsLegible] at legible
      have least := two_le_length_writeFields level fields
      rw [write, newLine] at within
      simp only [List.length_cons, List.length_append] at within
      obtain ⟨bound, rfl⟩ : ∃ less, bound = less + 2 := ⟨bound - 2, by omega⟩
      have read := readValue_write (level + 1) item legible.1
        (endsValue_writeFields level fields rest)
        (show (write (level + 1) item).length < bound + 1 by omega)
      have behind := readFields_write level name fields legible.2 (by omega) (by omega)
        (skipSpace_value legible.1 (level + 1) _) read
      rw [write, scalars_cons, List.cons_append]
      simp only [scalars_append, List.append_assoc]
      rw [readValue_record, behind]
      rfl

/-- The items behind one that has been read are read as they were written. -/
theorem readItems_write (level : Nat) {depth bound : Nat} (items : List (Json String))
    {points rest : Points} {value : Json EditorText} (legible : ItemsLegible depth items)
    (within : (writeItems level items).length ≤ bound + 1)
    (read : readValue bound depth points = .ok (value, scalars (writeItems level items) ++ rest)) :
    readItems (bound + 1) depth points = .ok (value :: itemsAsRead items, rest) := by
  match items with
  | [] => exact readItems_last read
  | item :: items =>
      rw [ItemsLegible] at legible
      have least := two_le_length_writeItems level items
      rw [writeItems, newLine] at within
      simp only [List.length_cons, List.length_append] at within
      obtain ⟨bound, rfl⟩ : ∃ less, bound = less + 1 := ⟨bound - 1, by omega⟩
      have next := readValue_write (level + 1) item legible.1
        (endsValue_writeItems level items rest) (show (write (level + 1) item).length < bound by omega)
      rw [readItems_next legible.1 read,
        readItems_write level items legible.2 (by omega) next]
      rfl

/-- The fields behind one that has been read are read as they were written. -/
theorem readFields_write (level : Nat) {depth bound : Nat} (name : String)
    (fields : List (String × Json String)) {points rest : Points} {value : Json EditorText}
    (legible : FieldsLegible depth fields) (named : (writeString name).length ≤ bound + 1)
    (within : (writeFields level fields).length ≤ bound + 1)
    (shown : skipSpace points = points)
    (read : readValue bound depth points =
      .ok (value, scalars (writeFields level fields) ++ rest)) :
    readFields (bound + 1) depth (scalars (writeString name) ++ (scalars [':', ' '] ++ points)) =
      .ok ((EditorText.ofString name, value) :: fieldsAsRead fields, rest) := by
  match fields with
  | [] => exact readFields_last named shown read
  | (other, item) :: fields =>
      rw [FieldsLegible] at legible
      have least := two_le_length_writeFields level fields
      rw [writeFields, newLine] at within
      simp only [List.length_cons, List.length_append] at within
      obtain ⟨bound, rfl⟩ : ∃ less, bound = less + 1 := ⟨bound - 1, by omega⟩
      have next := readValue_write (level + 1) item legible.1
        (endsValue_writeFields level fields rest)
        (show (write (level + 1) item).length < bound by omega)
      rw [readFields_next named shown read,
        readFields_write level other fields legible.2 (by omega) (by omega)
          (skipSpace_value legible.1 (level + 1) _) next]
      rfl

end

/-! ### Whole texts -/

/-- A text that holds a document and then at most blank lines is read as the document. -/
theorem read_write {depth : Nat} {document : Json String} (legible : Legible depth document)
    {rest : Points} (ends : EndsValue rest) (blank : skipSpace rest = []) :
    read depth ⟨scalars (write 0 document) ++ rest⟩ = .ok (asRead document) := by
  have within : (write 0 document).length < (scalars (write 0 document) ++ rest).length + 1 := by
    rw [List.length_append, scalars, List.length_map]
    omega
  unfold read
  simp only
  rw [skipSpace_value legible, readValue_write 0 document legible ends within]
  simp only
  rw [blank]
  rfl

mutual

/-- A document whose texts and names are all strings. -/
def strings? : Json EditorText → Option (Json String)
  | .null => some .null
  | .bool value => some (.bool value)
  | .int value => some (.int value)
  | .real value => some (.real value)
  | .text value => value.toString?.map .text
  | .list items => (itemStrings? items).map .list
  | .record fields => (fieldStrings? fields).map .record

def itemStrings? : List (Json EditorText) → Option (List (Json String))
  | [] => some []
  | item :: items => do
      let item ← strings? item
      let items ← itemStrings? items
      return item :: items

def fieldStrings? : List (EditorText × Json EditorText) → Option (List (String × Json String))
  | [] => some []
  | (name, item) :: fields => do
      let name ← name.toString?
      let item ← strings? item
      let fields ← fieldStrings? fields
      return (name, item) :: fields

end

mutual

theorem strings?_asRead (document : Json String) : strings? (asRead document) = some document := by
  match document with
  | .null => rfl
  | .bool value => rfl
  | .int value => rfl
  | .real value => rfl
  | .text value => rw [asRead, strings?, EditorText.toString?_ofString, Option.map_some]
  | .list items => rw [asRead, strings?, itemStrings?_itemsAsRead items, Option.map_some]
  | .record fields => rw [asRead, strings?, fieldStrings?_fieldsAsRead fields, Option.map_some]

theorem itemStrings?_itemsAsRead (items : List (Json String)) :
    itemStrings? (itemsAsRead items) = some items := by
  match items with
  | [] => rfl
  | item :: items =>
      rw [itemsAsRead, itemStrings?, strings?_asRead item, itemStrings?_itemsAsRead items]
      rfl

theorem fieldStrings?_fieldsAsRead (fields : List (String × Json String)) :
    fieldStrings? (fieldsAsRead fields) = some fields := by
  match fields with
  | [] => rfl
  | (name, item) :: fields =>
      rw [fieldsAsRead, fieldStrings?, EditorText.toString?_ofString, strings?_asRead item,
        fieldStrings?_fieldsAsRead fields]
      rfl

end

/-- The document that a text holds, as deep as the service reads one, if all its texts are strings. -/
def decode (text : String) : Option (Json String) :=
  (read Service.Submission.deepest (EditorText.ofString text)).toOption.bind strings?

section

variable {document : Json String} (legible : Legible Service.Submission.deepest document)

include legible

theorem decode_render : decode document.render = some document := by
  have nothing : EndsValue [] := by
    intro point first
    cases first
  have read := read_write legible nothing rfl
  rw [List.append_nil] at read
  have points : EditorText.ofString document.render = ⟨scalars (write 0 document)⟩ := by
    rw [EditorText.ofString, render, String.toList_ofList]
    rfl
  rw [decode, points, read]
  exact strings?_asRead document

theorem decode_render_feed : decode (document.render ++ "\n") = some document := by
  have read := read_write legible (endsValue_newLine 0 []) rfl
  have points : EditorText.ofString (document.render ++ "\n") =
      ⟨scalars (write 0 document) ++ (scalars (newLine 0) ++ [])⟩ := by
    rw [EditorText.ofString, String.toList_append, render, String.toList_ofList, List.map_append]
    rfl
  rw [decode, points, read]
  exact strings?_asRead document

end

end ListingAtlas.Json
