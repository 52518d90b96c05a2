import ListingAtlas.Json.Printer
import ListingAtlas.Proofs.Text.MadeOf
import ListingAtlas.Proofs.Text.Utf8

/-!
The characters of a document as text. Escapes, numbers and layout are plain, so whatever is not plain
stands in a text or a name of the document.
-/

namespace ListingAtlas

namespace Json

variable {kind : Char → Prop}

mutual

/-- Every text and name of a document is made of characters of a kind, and so are its numbers that
are not whole. -/
def MadeOf (kind : Char → Prop) : Json String → Prop
  | .null => True
  | .bool _ => True
  | .int _ => True
  | .real value => ∀ character ∈ writeReal value, kind character
  | .text value => ListingAtlas.MadeOf kind value
  | .list items => ItemsMadeOf kind items
  | .record fields => FieldsMadeOf kind fields

def ItemsMadeOf (kind : Char → Prop) : List (Json String) → Prop
  | [] => True
  | item :: items => MadeOf kind item ∧ ItemsMadeOf kind items

def FieldsMadeOf (kind : Char → Prop) : List (String × Json String) → Prop
  | [] => True
  | (name, item) :: fields =>
      ListingAtlas.MadeOf kind name ∧ MadeOf kind item ∧ FieldsMadeOf kind fields

end

theorem itemsMadeOf_map {Item : Type} {items : List Item} {document : Item → Json String}
    (each : ∀ item ∈ items, MadeOf kind (document item)) :
    ItemsMadeOf kind (items.map document) := by
  induction items with
  | nil => trivial
  | cons item items ih =>
      rw [List.forall_mem_cons] at each
      exact ⟨each.1, ih each.2⟩

theorem forall_mem_newLine (keeps : KeepsPlain kind) (level : Nat) :
    ∀ character ∈ newLine level, kind character := by
  rw [newLine, List.forall_mem_cons]
  refine ⟨keeps _ (by decide), fun character member => ?_⟩
  rw [List.eq_of_mem_replicate member]
  exact keeps _ (by decide)

theorem forall_mem_writeString (keeps : KeepsPlain kind) {text : String}
    (made : ListingAtlas.MadeOf kind text) : ∀ character ∈ writeString text, kind character := by
  have code : ∀ number < 0x20, Text.Plain ('\\' :: 'u' :: Text.hexadecimal 4 number) := by
    decide
  rw [writeString, List.forall_mem_cons, List.forall_mem_append, List.forall_mem_singleton]
  refine ⟨keeps _ (by decide), fun shown member => ?_, keeps _ (by decide)⟩
  obtain ⟨character, among, escaped⟩ := List.mem_flatMap.mp member
  have pair {letter : Char} (plain : letter.toNat < 128) (inPair : shown ∈ ['\\', letter]) :
      kind shown := by
    rw [List.mem_cons, List.mem_singleton] at inPair
    rcases inPair with rfl | rfl
    · exact keeps _ (by decide)
    · exact keeps _ plain
  unfold escapedChar at escaped
  split at escaped
  · rw [List.mem_cons, List.mem_singleton] at escaped
    rcases escaped with rfl | rfl
    · exact keeps _ (by decide)
    · exact made _ among
  split at escaped
  · exact pair (by decide) escaped
  split at escaped
  · exact pair (by decide) escaped
  split at escaped
  · exact pair (by decide) escaped
  split at escaped
  · exact pair (by decide) escaped
  split at escaped
  · exact pair (by decide) escaped
  split at escaped
  · rename_i low
    exact keeps shown (code character.toNat low shown escaped)
  · rw [List.mem_singleton.mp escaped]
    exact made character among

theorem forall_mem_colon (keeps : KeepsPlain kind) : ∀ character ∈ [':', ' '], kind character :=
  (madeOf_plain keeps rfl : ListingAtlas.MadeOf kind ": ")

mutual

/-- What is written besides the texts of a document is plain. -/
theorem forall_mem_write (keeps : KeepsPlain kind) (level : Nat) (document : Json String)
    (made : MadeOf kind document) : ∀ character ∈ write level document, kind character := by
  match document with
  | .null => exact (madeOf_plain keeps rfl : ListingAtlas.MadeOf kind "null")
  | .bool true => exact (madeOf_plain keeps rfl : ListingAtlas.MadeOf kind "true")
  | .bool false => exact (madeOf_plain keeps rfl : ListingAtlas.MadeOf kind "false")
  | .int value => exact madeOf_integer keeps value
  | .real value => exact made
  | .text value => exact forall_mem_writeString keeps made
  | .list [] => exact (madeOf_plain keeps rfl : ListingAtlas.MadeOf kind "[]")
  | .list (item :: items) =>
      rw [write, List.forall_mem_cons, List.forall_mem_append, List.forall_mem_append]
      exact ⟨keeps _ (by decide), ⟨forall_mem_newLine keeps _,
        forall_mem_write keeps (level + 1) item made.1⟩,
        forall_mem_writeItems keeps level items made.2⟩
  | .record [] => exact (madeOf_plain keeps rfl : ListingAtlas.MadeOf kind "\x7b\x7d")
  | .record ((name, item) :: fields) =>
      rw [write, List.forall_mem_cons, List.forall_mem_append, List.forall_mem_append,
        List.forall_mem_append, List.forall_mem_append]
      exact ⟨keeps _ (by decide), ⟨⟨⟨forall_mem_newLine keeps _,
        forall_mem_writeString keeps made.1⟩, forall_mem_colon keeps⟩,
        forall_mem_write keeps (level + 1) item made.2.1⟩,
        forall_mem_writeFields keeps level fields made.2.2⟩

theorem forall_mem_writeItems (keeps : KeepsPlain kind) (level : Nat) (items : List (Json String))
    (made : ItemsMadeOf kind items) : ∀ character ∈ writeItems level items, kind character := by
  match items with
  | [] =>
      rw [writeItems, List.forall_mem_append, List.forall_mem_singleton]
      exact ⟨forall_mem_newLine keeps level, keeps _ (by decide)⟩
  | item :: items =>
      rw [writeItems, List.forall_mem_cons, List.forall_mem_append, List.forall_mem_append]
      exact ⟨keeps _ (by decide), ⟨forall_mem_newLine keeps _,
        forall_mem_write keeps (level + 1) item made.1⟩,
        forall_mem_writeItems keeps level items made.2⟩

theorem forall_mem_writeFields (keeps : KeepsPlain kind) (level : Nat)
    (fields : List (String × Json String)) (made : FieldsMadeOf kind fields) :
    ∀ character ∈ writeFields level fields, kind character := by
  match fields with
  | [] =>
      rw [writeFields, List.forall_mem_append, List.forall_mem_singleton]
      exact ⟨forall_mem_newLine keeps level, keeps _ (by decide)⟩
  | (name, item) :: fields =>
      rw [writeFields, List.forall_mem_cons, List.forall_mem_append, List.forall_mem_append,
        List.forall_mem_append, List.forall_mem_append]
      exact ⟨keeps _ (by decide), ⟨⟨⟨forall_mem_newLine keeps _,
        forall_mem_writeString keeps made.1⟩, forall_mem_colon keeps⟩,
        forall_mem_write keeps (level + 1) item made.2.1⟩,
        forall_mem_writeFields keeps level fields made.2.2⟩

end

theorem render_madeOf (keeps : KeepsPlain kind) {document : Json String}
    (made : document.MadeOf kind) : ListingAtlas.MadeOf kind document.render :=
  madeOf_ofList (forall_mem_write keeps 0 document made)

end Json

end ListingAtlas
