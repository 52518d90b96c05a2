import ListingAtlas.Proofs.Json.Leaves
import ListingAtlas.View

/-!
Which contents can be written. A view is shown by its content just if every number in it has no more
digits than are written; the annotated listing has none, and the page has the lines of its entries.
-/

namespace ListingAtlas.View

open Number

variable {view : View} {correlation : Correlation}

theorem spelled_of_short (short : ∀ number ∈ view.numbers correlation, IsShort number) :
    view.spelled correlation = .ok (view.content correlation) := by
  rw [spelled, if_neg]
  rw [List.any_eq_true]
  intro long
  obtain ⟨number, among, tooLong⟩ := long
  rw [(isTooLong_eq_false_iff number).mpr (short number among)] at tooLong
  cases tooLong

theorem spelled_of_not_short (long : ¬ ∀ number ∈ view.numbers correlation, IsShort number) :
    view.spelled correlation = .error .numberTooLong := by
  rw [spelled, if_pos]
  rw [List.any_eq_true]
  obtain ⟨number, among, tooLong⟩ := not_forall₂.mp long
  refine ⟨number, among, ?_⟩
  rw [← Bool.not_eq_false, isTooLong_eq_false_iff]
  exact tooLong

theorem eq_content_of_spelled {content : String} (told : view.spelled correlation = .ok content) :
    (∀ number ∈ view.numbers correlation, IsShort number) ∧ content = view.content correlation := by
  by_cases short : ∀ number ∈ view.numbers correlation, IsShort number
  · rw [spelled_of_short short] at told
    exact ⟨short, (Except.ok.inj told).symm⟩
  · rw [spelled_of_not_short short] at told
    cases told

/-! ### The annotated listing and the page -/

theorem spelled_annotated (correlation : Correlation) :
    annotated.spelled correlation = .ok (annotated.content correlation) :=
  spelled_of_short fun _number none => nomatch none

theorem forall_numbers_html_iff (correlation : Correlation) :
    (∀ number ∈ html.numbers correlation, IsShort number) ↔
      ∀ entry ∈ correlation.entries, IsShort entry.sourceLine :=
  List.forall_mem_map

/-- There is a page unless the line of an entry has too many digits to be written in it. -/
theorem exists_page_iff (correlation : Correlation) :
    (∃ page, html.spelled correlation = .ok page) ↔
      ∀ entry ∈ correlation.entries, IsShort entry.sourceLine := by
  rw [← forall_numbers_html_iff]
  constructor
  · rintro ⟨page, told⟩
    exact (eq_content_of_spelled told).1
  · intro short
    exact ⟨_, spelled_of_short short⟩

theorem eq_numberTooLong_of_spelled {failure : Failure}
    (told : view.spelled correlation = .error failure) : failure = .numberTooLong := by
  by_cases short : ∀ number ∈ view.numbers correlation, IsShort number
  · rw [spelled_of_short short] at told
    cases told
  · rw [spelled_of_not_short short] at told
    exact (Except.error.inj told).symm

end ListingAtlas.View
