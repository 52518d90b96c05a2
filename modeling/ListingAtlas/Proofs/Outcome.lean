import Mathlib.Data.List.Forall2

/-!
Outcomes one after another: when a chain of them succeeds, and when it fails.
-/

namespace ListingAtlas

section

variable {Error First Second : Type} {outcome : Except Error First}

theorem bind_eq_ok_iff {next : First → Except Error Second} {result : Second} :
    outcome.bind next = .ok result ↔ ∃ first, outcome = .ok first ∧ next first = .ok result := by
  cases outcome <;> simp [Except.bind]

theorem bind_eq_error_iff {next : First → Except Error Second} {error : Error} :
    outcome.bind next = .error error ↔
      outcome = .error error ∨ ∃ first, outcome = .ok first ∧ next first = .error error := by
  cases outcome <;> simp [Except.bind]

theorem map_eq_error_iff {change : First → Second} {error : Error} :
    outcome.map change = .error error ↔ outcome = .error error := by
  cases outcome <;> simp [Except.map]

theorem map_eq_ok_iff {change : First → Second} {result : Second} :
    outcome.map change = .ok result ↔ ∃ first, outcome = .ok first ∧ change first = result := by
  cases outcome <;> simp [Except.map]

theorem mapError_eq_ok_iff {Other : Type} {change : Error → Other} {result : First} :
    outcome.mapError change = .ok result ↔ outcome = .ok result := by
  constructor
  · intro succeeds
    cases outcome with
    | ok first => exact congrArg Except.ok (Except.ok.inj succeeds)
    | error error => cases succeeds
  · rintro rfl
    rfl

theorem mapError_eq_error_iff {Other : Type} {change : Error → Other} {other : Other} :
    outcome.mapError change = .error other ↔
      ∃ error, outcome = .error error ∧ change error = other := by
  constructor
  · intro fails
    cases outcome with
    | ok first => cases fails
    | error error => exact ⟨error, rfl, Except.error.inj fails⟩
  · rintro ⟨error, rfl, rfl⟩
    rfl

end

/-! ### One outcome for each item -/

theorem forall₂_of_mapM {Item Result Error : Type} {give : Item → Except Error Result}
    {items : List Item} {results : List Result} (given : items.mapM give = .ok results) :
    List.Forall₂ (fun item result => give item = .ok result) items results := by
  induction items generalizing results with
  | nil =>
      have none : [] = results := Except.ok.inj given
      rw [← none]
      exact .nil
  | cons item items ih =>
      rw [List.mapM_cons] at given
      obtain ⟨result, here, rest⟩ := bind_eq_ok_iff.mp given
      obtain ⟨others, later, whole⟩ := bind_eq_ok_iff.mp rest
      have same : result :: others = results := Except.ok.inj whole
      rw [← same]
      exact .cons here (ih later)

theorem exists_item_of_mapM {Item Result Error : Type} {give : Item → Except Error Result}
    {items : List Item} {results : List Result} (given : items.mapM give = .ok results) :
    ∀ result ∈ results, ∃ item ∈ items, give item = .ok result := by
  have matched := forall₂_of_mapM given
  clear given
  induction matched with
  | nil => exact nofun
  | cons here _rest ih =>
      refine List.forall_mem_cons.mpr ⟨⟨_, List.mem_cons_self, here⟩, ?_⟩
      intro result member
      obtain ⟨item, known, gives⟩ := ih result member
      exact ⟨item, List.mem_cons_of_mem _ known, gives⟩

end ListingAtlas
