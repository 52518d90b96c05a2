/-!
Tables in insertion order: keys are distinct, a new key goes to the end, and a known key keeps its
place when its value changes.
-/

namespace ListingAtlas

structure Table (Key : Type) (Value : Type) where
  items : List (Key × Value)
  distinct : (items.map Prod.fst).Nodup

namespace Table

theorem eq_of_items {Key Value : Type} {one other : Table Key Value}
    (same : one.items = other.items) : one = other := by
  cases one
  cases other
  cases same
  rfl

variable {Key Value : Type} [DecidableEq Key]

def empty : Table Key Value :=
  { items := [], distinct := List.nodup_nil }

def keys (table : Table Key Value) : List Key :=
  table.items.map Prod.fst

def values (table : Table Key Value) : List Value :=
  table.items.map Prod.snd

def get? (table : Table Key Value) (key : Key) : Option Value :=
  (table.items.find? fun item => item.1 = key).map Prod.snd

def contains (table : Table Key Value) (key : Key) : Bool :=
  (table.get? key).isSome

/-! ### Changing a table -/

/-- Set the value of a key that is there, and leave the rest. -/
def replaceIn (key : Key) (value : Value) (items : List (Key × Value)) : List (Key × Value) :=
  items.map fun item => if item.1 = key then (key, value) else item

theorem keys_replaceIn (key : Key) (value : Value) (items : List (Key × Value)) :
    (replaceIn key value items).map Prod.fst = items.map Prod.fst := by
  simp only [replaceIn, List.map_map]
  apply List.map_congr_left
  intro item _member
  by_cases same : item.1 = key
  · simp [same]
  · simp [same]

def insert (table : Table Key Value) (key : Key) (value : Value) : Table Key Value :=
  if present : key ∈ table.items.map Prod.fst then
    { items := replaceIn key value table.items
      distinct := by
        rw [keys_replaceIn]
        exact table.distinct }
  else
    { items := table.items ++ [(key, value)]
      distinct := by
        rw [List.map_append, List.nodup_append]
        refine ⟨table.distinct, by simp, ?_⟩
        intro first member second single same
        rw [List.map_singleton, List.mem_singleton] at single
        subst single
        exact present (same ▸ member) }

def erase (table : Table Key Value) (key : Key) : Table Key Value :=
  { items := table.items.filter fun item => item.1 ≠ key
    distinct := table.distinct.sublist (List.filter_sublist.map Prod.fst) }

/-- A later pair for a key replaces the value of an earlier one. -/
def ofPairs (pairs : List (Key × Value)) : Table Key Value :=
  pairs.foldl (fun table pair => table.insert pair.1 pair.2) empty

/-! ### What each change does to a look-up -/

theorem find?_replaceIn_same (key : Key) (value : Value) (items : List (Key × Value))
    (present : key ∈ items.map Prod.fst) :
    ((replaceIn key value items).find? fun item => item.1 = key) = some (key, value) := by
  induction items with
  | nil => simp at present
  | cons head tail ih =>
      by_cases same : head.1 = key
      · simp [replaceIn, same]
      · have inTail : key ∈ tail.map Prod.fst := by
          rw [List.map_cons, List.mem_cons] at present
          exact present.resolve_left (fun equal => same equal.symm)
        have found := ih inTail
        simp only [replaceIn] at found
        simp [replaceIn, same, found]

theorem find?_replaceIn_other (key other : Key) (value : Value) (items : List (Key × Value))
    (different : other ≠ key) :
    ((replaceIn key value items).find? fun item => item.1 = other) =
      items.find? fun item => item.1 = other := by
  induction items with
  | nil => rfl
  | cons head tail ih =>
      simp only [replaceIn] at ih
      by_cases same : head.1 = key
      · have headOther : ¬ key = other := fun equal => different equal.symm
        simp [replaceIn, same, headOther, ih]
      · by_cases found : head.1 = other
        · simp [replaceIn, found, different]
        · simp [replaceIn, same, found, ih]

@[simp]
theorem get?_eq_none {table : Table Key Value} {key : Key} (missing : key ∉ table.keys) :
    table.get? key = none := by
  rw [get?, Option.map_eq_none_iff, List.find?_eq_none]
  intro item member same
  exact missing (List.mem_map.mpr ⟨item, member, by simpa using same⟩)

theorem get?_isSome_iff (table : Table Key Value) (key : Key) :
    (table.get? key).isSome ↔ key ∈ table.keys := by
  constructor
  · intro found
    by_cases present : key ∈ table.keys
    · exact present
    · rw [get?_eq_none present] at found
      cases found
  · intro present
    obtain ⟨item, member, same⟩ := List.mem_map.mp present
    rw [get?, Option.isSome_map, List.find?_isSome]
    exact ⟨item, member, by simpa using same⟩

theorem find?_of_mem {key : Key} {value : Value} {items : List (Key × Value)}
    (distinct : (items.map Prod.fst).Nodup) (member : (key, value) ∈ items) :
    (items.find? fun item => item.1 = key) = some (key, value) := by
  induction items with
  | nil => cases member
  | cons head tail ih =>
      rw [List.map_cons, List.nodup_cons] at distinct
      rcases List.mem_cons.mp member with same | inTail
      · simp [← same]
      · have different : ¬ head.1 = key := by
          intro same
          apply distinct.1
          rw [same]
          exact List.mem_map.mpr ⟨(key, value), inTail, rfl⟩
        simp [different, ih distinct.2 inTail]

theorem get?_eq_some_iff (table : Table Key Value) (key : Key) (value : Value) :
    table.get? key = some value ↔ (key, value) ∈ table.items := by
  constructor
  · intro found
    obtain ⟨item, first, rfl⟩ := Option.map_eq_some_iff.mp found
    have same : item.1 = key := by simpa using List.find?_some first
    rw [← same]
    exact List.mem_of_find?_eq_some first
  · intro member
    rw [get?, find?_of_mem table.distinct member, Option.map_some]

theorem keys_insert (table : Table Key Value) (key : Key) (value : Value) :
    (table.insert key value).keys =
      if key ∈ table.keys then table.keys else table.keys ++ [key] := by
  unfold keys insert
  split
  · exact keys_replaceIn key value table.items
  · rw [List.map_append]
    rfl

theorem mem_keys_insert (table : Table Key Value) (key other : Key) (value : Value) :
    other ∈ (table.insert key value).keys ↔ other ∈ table.keys ∨ other = key := by
  rw [keys_insert]
  split
  · rename_i known
    exact (or_iff_left_of_imp fun same => same ▸ known).symm
  · rw [List.mem_append, List.mem_singleton]

theorem items_insert_of_mem {table : Table Key Value} {key : Key} (known : key ∈ table.keys)
    (value : Value) : (table.insert key value).items = replaceIn key value table.items := by
  have present : key ∈ table.items.map Prod.fst := known
  rw [insert, dif_pos present]

theorem items_insert_of_not_mem {table : Table Key Value} {key : Key} (new : key ∉ table.keys)
    (value : Value) : (table.insert key value).items = table.items ++ [(key, value)] := by
  have missing : key ∉ table.items.map Prod.fst := new
  rw [insert, dif_neg missing]

theorem get?_insert (table : Table Key Value) (key other : Key) (value : Value) :
    (table.insert key value).get? other = if other = key then some value else table.get? other := by
  by_cases present : key ∈ table.items.map Prod.fst
  · by_cases same : other = key
    · subst same
      simp [insert, present, get?, find?_replaceIn_same _ _ _ present]
    · simp [insert, present, get?, same, find?_replaceIn_other _ _ _ _ same]
  · by_cases same : other = key
    · subst same
      have missing := get?_eq_none present
      rw [get?, Option.map_eq_none_iff] at missing
      simp [insert, present, get?, List.find?_append, missing]
    · have other' : ¬ key = other := fun equal => same equal.symm
      simp [insert, present, get?, List.find?_append, same, other']

theorem get?_erase (table : Table Key Value) (key other : Key) :
    (table.erase key).get? other = if other = key then none else table.get? other := by
  simp only [erase, get?]
  induction table.items with
  | nil => simp
  | cons head tail ih =>
      by_cases removed : head.1 = key
      · by_cases same : other = key
        · subst same
          simp [removed]
        · have headOther : ¬ key = other := fun equal => same equal.symm
          simpa [removed, same, headOther] using ih
      · by_cases found : head.1 = other
        · subst found
          simp [removed]
        · simpa [removed, found] using ih

end Table

end ListingAtlas
