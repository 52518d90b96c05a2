import Mathlib.Data.List.TakeWhile
import ListingAtlas.Text.EditorText

/-!
Text of an editor that is a string. It is one just where no half of a surrogate pair stands alone in
it, which is also where it has bytes.
-/

namespace ListingAtlas.Text.EditorText

theorem isSurrogate_of_mapM {points : List CodePoint} {characters : List Char}
    (scalars : points.mapM CodePoint.char? = some characters) :
    ∀ point ∈ points, point.isSurrogate = false := by
  induction points generalizing characters with
  | nil => simp
  | cons point points ih =>
      rw [List.mapM_cons] at scalars
      obtain ⟨character, scalar, rest⟩ := Option.bind_eq_some_iff.mp scalars
      obtain ⟨others, othersScalar, _whole⟩ := Option.bind_eq_some_iff.mp rest
      intro other member
      rcases List.mem_cons.mp member with rfl | later
      · cases other with
        | scalar character => rfl
        | surrogate unit => cases scalar
      · exact ih othersScalar other later

theorem loneHalves?_of_scalars {text : EditorText}
    (scalars : ∀ point ∈ text.codePoints, point.isSurrogate = false) :
    text.loneHalves? = none := by
  have all : text.codePoints.takeWhile (fun point => !point.isSurrogate) = text.codePoints := by
    rw [List.takeWhile_eq_self_iff]
    intro point member
    rw [scalars point member]
    rfl
  unfold loneHalves?
  simp only [all, List.drop_length]
  rfl

theorem loneHalves?_of_toString? {text : EditorText} {characters : String}
    (encodable : text.toString? = some characters) : text.loneHalves? = none := by
  obtain ⟨scalars, mapped, _whole⟩ := Option.map_eq_some_iff.mp encodable
  exact loneHalves?_of_scalars (isSurrogate_of_mapM mapped)

/-- Either some halves stand alone or everything is a character. -/
theorem halves_or_characters (points : List CodePoint) :
    (∃ unit rest, (points.drop (points.takeWhile fun point => !point.isSurrogate).length).takeWhile
        CodePoint.isSurrogate = .surrogate unit :: rest) ∨
      ∃ characters, points.mapM CodePoint.char? = some characters := by
  induction points with
  | nil => exact Or.inr ⟨[], rfl⟩
  | cons point points ih =>
      cases point with
      | surrogate unit => exact Or.inl ⟨unit, points.takeWhile CodePoint.isSurrogate, rfl⟩
      | scalar character =>
          rcases ih with ⟨unit, rest, halves⟩ | ⟨characters, all⟩
          · exact Or.inl ⟨unit, rest, halves⟩
          · refine Or.inr ⟨character :: characters, ?_⟩
            rw [List.mapM_cons, all]
            rfl

theorem toString?_of_loneHalves? {text : EditorText} (none : text.loneHalves? = none) :
    ∃ characters, text.toString? = some characters := by
  rcases halves_or_characters text.codePoints with ⟨unit, rest, halves⟩ | ⟨characters, all⟩
  · unfold loneHalves? at none
    simp only [halves] at none
    cases none
  · exact ⟨String.ofList characters, by rw [toString?, all]; rfl⟩

theorem loneHalves?_eq_none_iff (text : EditorText) :
    text.loneHalves? = none ↔ ∀ point ∈ text.codePoints, point.isSurrogate = false := by
  refine ⟨fun none => ?_, loneHalves?_of_scalars⟩
  obtain ⟨characters, encodable⟩ := toString?_of_loneHalves? none
  obtain ⟨scalars, mapped, _whole⟩ := Option.map_eq_some_iff.mp encodable
  exact isSurrogate_of_mapM mapped

theorem toString?_ofString (text : String) : (ofString text).toString? = some text := by
  have each (characters : List Char) :
      (characters.map CodePoint.scalar).mapM CodePoint.char? = some characters := by
    induction characters with
    | nil => rfl
    | cons character characters ih =>
        rw [List.map_cons, List.mapM_cons, ih]
        rfl
  rw [toString?, ofString, each, Option.map_some, String.ofList_toList]

end ListingAtlas.Text.EditorText
