import ListingAtlas.Proofs.Correlation.Ranges
import ListingAtlas.Proofs.Json.RoundTrip
import ListingAtlas.Proofs.View.Spelled

/-!
What the two documents of a correlation tell when they are decoded: the records give the correlation
back, and the decorations give each entry its place, its instructions and its color. Only a number
with too many digits keeps a document from being written.
-/

namespace ListingAtlas

open Number

namespace Json

theorem itemsLegible_map {Item : Type} {items : List Item} {depth : Nat}
    {document : Item → Json String} (each : ∀ item ∈ items, Legible depth (document item)) :
    ItemsLegible depth (items.map document) := by
  induction items with
  | nil => trivial
  | cons item items ih =>
      rw [List.forall_mem_cons] at each
      exact ⟨each.1, ih each.2⟩

theorem integersOfItems_map {Item : Type} (items : List Item) (document : Item → Json String) :
    integersOfItems (items.map document) = items.flatMap fun item => (document item).integers := by
  induction items with
  | nil => rfl
  | cons item items ih => rw [List.map_cons, integersOfItems, ih, List.flatMap_cons]

end Json

namespace View.Document

/-! ### Records -/

def entry? (record : Json String) : Option Entry := do
  let fields ← record.record?
  let sourceLine ← (Json.field? fields "line").bind Json.int?
  let sourceText ← (Json.field? fields "code").bind Json.text?
  let assemblyText ← (Json.field? fields "assembly").bind Json.text?
  let displayColor ← (Json.field? fields "color").bind Json.text?
  return { sourceLine, sourceText, assemblyText, displayColor }

/-- The correlation that a document of records gives. -/
def correlation? (document : Json String) : Option Correlation := do
  let fields ← document.record?
  let sourceName ← (Json.field? fields "source_file").bind Json.text?
  let items ← (Json.field? fields "entries").bind Json.list?
  let entries ← items.mapM entry?
  return { sourceName, entries }

/-- A record gives a correlation back by its name and its entries, whatever else it holds. -/
theorem correlation?_record {fields : List (String × Json String)} {correlation : Correlation}
    (name : Json.field? fields "source_file" = some (.text correlation.sourceName))
    (entries : Json.field? fields "entries" =
      some (.list (correlation.entries.map entryRecord))) :
    correlation? (.record fields) = some correlation := by
  have read (entries : List Entry) : (entries.map entryRecord).mapM entry? = some entries := by
    induction entries with
    | nil => rfl
    | cons entry entries ih =>
        have first : entry? (entryRecord entry) = some entry := rfl
        rw [List.map_cons, List.mapM_cons, first, ih]
        rfl
  simp only [correlation?, Json.record?, name, entries, Option.bind_some, Json.text?, Json.list?,
    read, Option.bind_eq_bind, Option.pure_def]

theorem correlation?_listing (correlation : Correlation) :
    correlation? (listing correlation) = some correlation :=
  correlation?_record rfl rfl

theorem numbers_json (correlation : Correlation) :
    View.json.numbers correlation = correlation.entries.map Entry.sourceLine := by
  have numbers : View.json.numbers correlation =
      Json.integersOfItems (correlation.entries.map entryRecord) ++ [] := rfl
  rw [numbers, List.append_nil, Json.integersOfItems_map, List.map_eq_flatMap]
  rfl

theorem legible_listing {correlation : Correlation}
    (short : ∀ entry ∈ correlation.entries, IsShort entry.sourceLine) (depth : Nat) :
    Json.Legible (depth + 3) (listing correlation) := by
  have records : Json.ItemsLegible (depth + 1) (correlation.entries.map entryRecord) :=
    Json.itemsLegible_map fun entry among => ⟨short entry among, trivial, trivial, trivial, trivial⟩
  exact ⟨trivial, records, trivial⟩

/-! ### Decorations -/

/-- What an editor is told to show: the range of a line, the instructions to show for it, and the
color of the swatch behind it. -/
structure Decoration where
  range : Range
  hoverText : String
  background : String
deriving DecidableEq, Repr

def Decoration.ofEntry (entry : Entry) : Decoration :=
  { range := entryRange entry
    hoverText := entry.assemblyText
    background := entry.displayColor }

def decoration? (value : Json String) : Option Decoration := do
  let fields ← value.record?
  let range ← range? value
  let hover ← (Json.field? fields "hoverMessage").bind Json.record?
  let hoverText ← (Json.field? hover "value").bind Json.text?
  let options ← (Json.field? fields "renderOptions").bind Json.record?
  let after ← (Json.field? options "after").bind Json.record?
  let background ← (Json.field? after "backgroundColor").bind Json.text?
  return { range, hoverText, background }

/-- The decorations that a document gives, in their order. -/
def decorations? (document : Json String) : Option (List Decoration) := do
  let fields ← document.record?
  let items ← (Json.field? fields "decorations").bind Json.list?
  items.mapM decoration?

theorem decorations?_decorations (correlation : Correlation) :
    decorations? (decorations correlation) =
      some (correlation.entries.map Decoration.ofEntry) := by
  have each (entries : List Entry) :
      (entries.map decoration).mapM decoration? = some (entries.map Decoration.ofEntry) := by
    induction entries with
    | nil => rfl
    | cons entry entries ih =>
        have first : decoration? (decoration entry) = some (Decoration.ofEntry entry) := rfl
        rw [List.map_cons, List.mapM_cons, first, ih]
        rfl
  exact each correlation.entries

/-- The numbers of a decoration can be written. -/
def IsPlaceable (entry : Entry) : Prop :=
  IsShort entry.sourceLine ∧ IsShort (entry.sourceLine - 1) ∧ IsShort entry.sourceText.length

theorem isShort_zero : IsShort 0 := by
  rw [IsShort, Int.natAbs_zero, Nat.toDigits_zero]
  decide

theorem forall_numbers_decorations_iff (correlation : Correlation) :
    (∀ number ∈ View.decorations.numbers correlation, IsShort number) ↔
      ∀ entry ∈ correlation.entries, IsPlaceable entry := by
  have numbers : View.decorations.numbers correlation =
      Json.integersOfItems (correlation.entries.map decoration) ++ [] := rfl
  have ofEntry (entry : Entry) : (decoration entry).integers =
      [entry.sourceLine, entry.sourceLine - 1, 0, entry.sourceLine - 1,
        entry.sourceText.length] := rfl
  rw [numbers, List.append_nil, Json.integersOfItems_map, List.forall_mem_flatMap]
  refine forall₂_congr fun entry _among => ?_
  rw [ofEntry]
  constructor
  · intro each
    exact ⟨each _ (by simp), each _ (by simp), each _ (by simp)⟩
  · intro placeable number among
    obtain ⟨line, before, length⟩ := placeable
    simp only [List.mem_cons, List.not_mem_nil, or_false] at among
    rcases among with rfl | rfl | rfl | rfl | rfl
    · exact line
    · exact before
    · exact isShort_zero
    · exact before
    · exact length

theorem legible_decorations {correlation : Correlation}
    (placeable : ∀ entry ∈ correlation.entries, IsPlaceable entry) (depth : Nat) :
    Json.Legible (depth + 5) (decorations correlation) := by
  have items : Json.ItemsLegible (depth + 3) (correlation.entries.map decoration) :=
    Json.itemsLegible_map fun entry among => by
      obtain ⟨line, before, length⟩ := placeable entry among
      refine ⟨line, ⟨⟨before, isShort_zero, trivial⟩, ⟨before, length, trivial⟩, trivial⟩,
        ⟨trivial, trivial, trivial⟩, ⟨⟨trivial, trivial⟩, trivial⟩, trivial⟩
  exact ⟨trivial, ⟨trivial, trivial, trivial, trivial, trivial, trivial⟩, items, trivial⟩

/-! ### What a file tells -/

/-- A content holds a document if it is a text and a line feed, and the document is what is decoded
from it, with the line feed or without. -/
def Holds (content : String) (document : Json String) : Prop :=
  ∃ text, content = text ++ "\n" ∧ Json.decode text = some document ∧
    Json.decode content = some document

theorem holds_asFile {document : Json String}
    (legible : Json.Legible Service.Submission.deepest document) :
    Holds (asFile document) document :=
  ⟨document.render, rfl, Json.decode_render legible, Json.decode_render_feed legible⟩

theorem Holds.unique {content : String} {one other : Json String} (first : Holds content one)
    (second : Holds content other) : one = other := by
  obtain ⟨_text, _whole, _alone, here⟩ := first
  obtain ⟨_other, _same, _aside, there⟩ := second
  exact Option.some.inj (here.symm.trans there)

section

variable (correlation : Correlation)

theorem holds_listing (short : ∀ entry ∈ correlation.entries, IsShort entry.sourceLine) :
    Holds (View.json.content correlation) (listing correlation) :=
  holds_asFile (legible_listing short 962)

theorem holds_decorations (placeable : ∀ entry ∈ correlation.entries, IsPlaceable entry) :
    Holds (View.decorations.content correlation) (decorations correlation) :=
  holds_asFile (legible_decorations placeable 960)

theorem forall_numbers_json_iff :
    (∀ number ∈ View.json.numbers correlation, IsShort number) ↔
      ∀ entry ∈ correlation.entries, IsShort entry.sourceLine := by
  rw [numbers_json, List.forall_mem_map]

/-- Both documents tell everything about a correlation unless a number in them is too long to be
written; then they are not written at all. So no two correlations are written as the same records. -/
theorem documents_tell_all :
    ((∀ entry ∈ correlation.entries, IsShort entry.sourceLine) →
      ∃ content, View.json.spelled correlation = .ok content ∧
        Holds content (listing correlation)) ∧
    ((¬ ∀ entry ∈ correlation.entries, IsShort entry.sourceLine) →
      View.json.spelled correlation = .error .numberTooLong) ∧
    correlation? (listing correlation) = some correlation ∧
    ((∀ entry ∈ correlation.entries, IsPlaceable entry) →
      ∃ content, View.decorations.spelled correlation = .ok content ∧
        Holds content (decorations correlation)) ∧
    ((¬ ∀ entry ∈ correlation.entries, IsPlaceable entry) →
      View.decorations.spelled correlation = .error .numberTooLong) ∧
    decorations? (decorations correlation) =
      some (correlation.entries.map Decoration.ofEntry) ∧
    ∀ other content, View.json.spelled correlation = .ok content →
      View.json.spelled other = .ok content → correlation = other := by
  have lines := forall_numbers_json_iff correlation
  have places := forall_numbers_decorations_iff correlation
  refine ⟨?_, ?_, correlation?_listing correlation, ?_, ?_, decorations?_decorations correlation, ?_⟩
  · intro short
    exact ⟨_, spelled_of_short (lines.mpr short), holds_listing correlation short⟩
  · intro long
    exact spelled_of_not_short fun short => long (lines.mp short)
  · intro placeable
    exact ⟨_, spelled_of_short (places.mpr placeable), holds_decorations correlation placeable⟩
  · intro long
    exact spelled_of_not_short fun placeable => long (places.mp placeable)
  · intro other content here there
    have holds {correlation : Correlation} (told : View.json.spelled correlation = .ok content) :
        Holds content (listing correlation) := by
      obtain ⟨short, whole⟩ := eq_content_of_spelled told
      rw [whole]
      exact holds_listing correlation ((forall_numbers_json_iff correlation).mp short)
    have same := (holds here).unique (holds there)
    have means := correlation?_listing correlation
    rw [same, correlation?_listing other] at means
    exact (Option.some.inj means).symm

end

/-- A line of as many digits as are written, the line before which has one more. -/
theorem decorations_before_least_line :
    let least : Int := 1 - (tenTo digitLimit : Int)
    let correlation : Correlation :=
      { sourceName := "a.c", entries := [⟨least, "x", "\tnop", "#fff"⟩] }
    (∃ content, View.json.spelled correlation = .ok content) ∧
      View.decorations.spelled correlation = .error .numberTooLong := by
  intro least correlation
  have positive := tenTo_pos digitLimit
  have short : IsShort least := by
    rw [isShort_iff]
    omega
  have long : ¬ IsShort (least - 1) := by
    rw [isShort_iff]
    omega
  constructor
  · have lines := (forall_numbers_json_iff correlation).mpr (List.forall_mem_singleton.mpr short)
    exact ⟨_, spelled_of_short lines⟩
  · apply spelled_of_not_short
    rw [forall_numbers_decorations_iff, List.forall_mem_singleton]
    exact fun placeable => long placeable.2.1

end View.Document

end ListingAtlas
