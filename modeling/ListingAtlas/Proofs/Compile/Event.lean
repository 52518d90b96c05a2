import ListingAtlas.Compile.Call
import ListingAtlas.Proofs.Number.Binary64

/-!
What comes to a call that waits for its compiler: the compiler ends in time, its limit passes, or the
call is cancelled. What the call foresees of the compiler is what comes.
-/

namespace ListingAtlas.Compile

open Number (Binary64)

/-! ### What comes to a call -/

/-- Whether a process may take so many ticks. Without a limit it may take any. -/
def Allowed : Option Limit → Nat → Prop
  | none, _ => True
  | some (.seconds value), ticks => value.Allows ticks
  | some _, _ => False

namespace Script

/-- The process takes no longer than it may, and its time is over. -/
def EndsBy (script : Script) (limit : Option Limit) (clock : Nat) : Prop :=
  ∃ ticks, script.duration = some (.ticks ticks) ∧ Allowed limit ticks ∧ ticks ≤ clock

/-- The process takes longer than it may, or never ends, and its limit has passed. -/
def ExpiresBy (script : Script) (limit : Option Limit) (clock : Nat) : Prop :=
  ∃ value, limit = some (.seconds value) ∧ value.PassedAt clock ∧
    ∀ ticks, script.duration = some (.ticks ticks) → ¬ value.Allows ticks

end Script

/-- What comes to a call that waits for a process. -/
inductive Event where
  | ended
  | expired
  | cancelled

namespace Script

variable (script : Script) (limit : Option Limit)

/-- Whether a moment brings an event: a turn, which also a tick begins with, or a cancellation. -/
def Brings (clock : Nat) (moment : Moment) : Event → Prop
  | .ended => (moment = .turn ∨ moment = .tick) ∧ script.EndsBy limit clock
  | .expired => (moment = .turn ∨ moment = .tick) ∧ script.ExpiresBy limit clock
  | .cancelled => moment = .cancelled

def Uneventful (moments : List Moment) : Prop :=
  ∀ before moment, before ++ [moment] <+: moments →
    ∀ event, ¬ script.Brings limit (before.count .tick) moment event

/-- An event comes before any other, and before the rest of the moments. -/
def ComesFirst (event : Event) (moments rest : List Moment) : Prop :=
  ∃ before moment, moments = before ++ moment :: rest ∧ script.Uneventful limit before ∧
    script.Brings limit (before.count .tick) moment event

end Script

/-- Of two moments, one comes, and none of either comes before it. -/
def Precedes (moment other : Moment) (moments : List Moment) : Prop :=
  ∃ before after, moments = before ++ moment :: after ∧ moment ∉ before ∧ other ∉ before

/-! ### Events in turn -/

namespace Script

variable {script : Script} {limit : Option Limit} {moments : List Moment}

theorem uneventful_concat {moment : Moment} :
    script.Uneventful limit (moments ++ [moment]) ↔
      script.Uneventful limit moments ∧
        ∀ event, ¬ script.Brings limit (moments.count .tick) moment event := by
  constructor
  · intro quiet
    refine ⟨fun before earlier begins => ?_, quiet moments moment List.prefix_rfl⟩
    exact quiet before earlier (begins.trans (List.prefix_append moments [moment]))
  · rintro ⟨quiet, unbrought⟩ before last begins
    rcases List.prefix_concat_iff.mp begins with whole | earlier
    · obtain ⟨rfl, same⟩ := List.append_inj' whole rfl
      rw [List.singleton_inj.mp same]
      exact unbrought
    · exact quiet before last earlier

theorem uneventful_or_comesFirst (script : Script) (limit : Option Limit) (moments : List Moment) :
    script.Uneventful limit moments ∨ ∃ event rest, script.ComesFirst limit event moments rest := by
  induction moments using List.reverseRecOn with
  | nil =>
      left
      intro before moment begins
      exact absurd (List.prefix_nil.mp begins) (by simp)
  | append_singleton moments moment ih =>
      rcases ih with quiet | ⟨event, rest, before, earlier, split, quiet, brought⟩
      · by_cases brings : ∃ event, script.Brings limit (moments.count .tick) moment event
        · obtain ⟨event, brought⟩ := brings
          exact Or.inr ⟨event, [], moments, moment, rfl, quiet, brought⟩
        · exact Or.inl (uneventful_concat.mpr ⟨quiet, not_exists.mp brings⟩)
      · right
        refine ⟨event, rest ++ [moment], before, earlier, ?_, quiet, brought⟩
        rw [split, List.append_assoc, List.cons_append]

end Script

theorem Script.ComesFirst.exists_limit {script : Script} {limit : Option Limit}
    {moments rest : List Moment} (first : script.ComesFirst limit .expired moments rest) :
    ∃ value, limit = some (.seconds value) := by
  obtain ⟨before, moment, _split, _quiet, _gives, value, limited, _passed⟩ := first
  exact ⟨value, limited⟩

theorem precedes_or (first second : Moment) (moments : List Moment) :
    (first ∉ moments ∧ second ∉ moments) ∨ Precedes first second moments ∨
      Precedes second first moments := by
  induction moments with
  | nil => exact Or.inl ⟨List.not_mem_nil, List.not_mem_nil⟩
  | cons moment moments ih =>
      have none {other : Moment} : other ∉ ([] : List Moment) := List.not_mem_nil
      by_cases isFirst : moment = first
      · exact Or.inr (Or.inl ⟨[], moments, by rw [isFirst]; rfl, none, none⟩)
      by_cases isSecond : moment = second
      · exact Or.inr (Or.inr ⟨[], moments, by rw [isSecond]; rfl, none, none⟩)
      have not_mem {other : Moment} {others : List Moment} (different : moment ≠ other)
          (absent : other ∉ others) : other ∉ moment :: others :=
        List.not_mem_cons_of_ne_of_not_mem different.symm absent
      rcases ih with ⟨noFirst, noSecond⟩ | ⟨before, after, rfl, noFirst, noSecond⟩ |
        ⟨before, after, rfl, noSecond, noFirst⟩
      · exact Or.inl ⟨not_mem isFirst noFirst, not_mem isSecond noSecond⟩
      · exact Or.inr (Or.inl ⟨moment :: before, after, rfl, not_mem isFirst noFirst,
          not_mem isSecond noSecond⟩)
      · exact Or.inr (Or.inr ⟨moment :: before, after, rfl, not_mem isSecond noSecond,
          not_mem isFirst noFirst⟩)

theorem Precedes.mem {moment other : Moment} {moments : List Moment}
    (first : Precedes moment other moments) : moment ∈ moments := by
  obtain ⟨before, after, rfl, _⟩ := first
  exact List.mem_append_right before List.mem_cons_self

/-! ### What a watch foresees -/

/-- What a watch foresees is what comes, from its ticks on, and the other never does. -/
inductive Tells (script : Script) (limit : Option Limit) : Verdict → Option Nat → Prop
  | ends {ticks : Option Nat}
      (elapses : ∀ clock, Call.isOver ticks clock = true ↔ script.EndsBy limit clock)
      (never : ∀ clock, ¬ script.ExpiresBy limit clock) : Tells script limit .ends ticks
  | expires {value : Binary64} {ticks : Option Nat} (limited : limit = some (.seconds value))
      (elapses : ∀ clock, Call.isOver ticks clock = true ↔ script.ExpiresBy limit clock)
      (never : ∀ clock, ¬ script.EndsBy limit clock) :
      Tells script limit (.expires (.compilerTimedOut value)) ticks

theorem Call.isOver_iff {ticks : Option Nat} {clock : Nat} :
    isOver ticks clock = true ↔ ∃ due, ticks = some due ∧ due ≤ clock := by
  cases ticks <;> simp [isOver]

theorem tells_ends {script : Script} {limit : Option Limit} {ticks : Nat}
    (takes : script.duration = some (.ticks ticks)) (allowed : Allowed limit ticks) :
    Tells script limit .ends (some ticks) := by
  refine .ends (fun clock => ?_) ?_
  · simp [Call.isOver_iff, Script.EndsBy, takes, allowed]
  · rintro clock ⟨value, rfl, _passed, longer⟩
    exact longer ticks takes allowed

theorem tells_expires {script : Script} {value : Binary64} {ticks : Option Nat}
    (elapses : ∀ clock, Call.isOver ticks clock = true ↔ value.PassedAt clock)
    (longer : ∀ ticks, script.duration = some (.ticks ticks) → ¬ value.Allows ticks) :
    Tells script (some (.seconds value)) (.expires (.compilerTimedOut value)) ticks := by
  refine .expires rfl (fun clock => ?_) ?_
  · rw [elapses]
    constructor
    · exact fun passed => ⟨value, rfl, passed, longer⟩
    · rintro ⟨other, same, passed, _longer⟩
      cases same
      exact passed
  · rintro clock ⟨ticks, takes, allowed, _over⟩
    exact longer ticks takes allowed

/-- A limit of no time or less is one that any process exceeds, and it has passed at once. -/
theorem tells_expires_at_once {script : Script} {value : Binary64}
    (nonpositive : value.isNonpositive = true) :
    Tells script (some (.seconds value)) (.expires (.compilerTimedOut value)) (some 0) := by
  apply tells_expires
  · intro clock
    simp [Call.isOver, Binary64.passedAt_of_isNonpositive nonpositive]
  · intro ticks _takes allowed
    rw [((value.allows_iff ticks).mp allowed).1] at nonpositive
    cases nonpositive

theorem tells_expires_at_ceiling {script : Script} {value : Binary64}
    (longer : ∀ ticks, script.duration = some (.ticks ticks) → ¬ value.Allows ticks) :
    Tells script (some (.seconds value)) (.expires (.compilerTimedOut value)) value.ceiling? := by
  refine tells_expires (fun clock => ?_) longer
  rw [Call.isOver_iff, value.passedAt_iff]

section

variable {script : Script} (short : script.duration ≠ some .immeasurable)

include short

theorem exists_tells_unlimited :
    ∃ verdict ticks, foresee script.duration none = .ok (verdict, ticks) ∧
      Tells script none verdict ticks := by
  match takes : script.duration with
  | none =>
      refine ⟨.ends, none, rfl, .ends (fun clock => ?_) ?_⟩
      · simp [Call.isOver, Script.EndsBy, takes]
      · rintro clock ⟨value, none, _⟩
        cases none
  | some .immeasurable => exact absurd takes short
  | some (.ticks ticks) => exact ⟨.ends, some ticks, rfl, tells_ends takes trivial⟩

theorem exists_tells_seconds (value : Binary64) :
    ∃ verdict ticks, foresee script.duration (some (.seconds value)) = .ok (verdict, ticks) ∧
      Tells script (some (.seconds value)) verdict ticks := by
  unfold foresee
  simp only [Limit.bound, Limit.expiry, bind, Except.bind]
  cases nonpositive : value.isNonpositive with
  | true => exact ⟨_, _, rfl, tells_expires_at_once nonpositive⟩
  | false =>
      match takes : script.duration with
      | none =>
          refine ⟨_, _, rfl, tells_expires_at_ceiling ?_⟩
          intro ticks ends
          rw [takes] at ends
          cases ends
      | some .immeasurable => exact absurd takes short
      | some (.ticks ticks) =>
          simp only [Bool.false_eq_true, if_false]
          cases exceeded : value.exceededBy ticks with
          | true =>
              refine ⟨_, _, rfl, tells_expires_at_ceiling ?_⟩
              intro other same allowed
              rw [takes] at same
              cases same
              rw [((value.allows_iff _).mp allowed).2] at exceeded
              cases exceeded
          | false =>
              have allowed := (value.allows_iff ticks).mpr ⟨nonpositive, exceeded⟩
              exact ⟨_, _, rfl, tells_ends takes allowed⟩

theorem exists_tells {limit : Option Limit}
    (measured : limit = none ∨ ∃ value, limit = some (.seconds value)) :
    ∃ verdict ticks, foresee script.duration limit = .ok (verdict, ticks) ∧
      Tells script limit verdict ticks := by
  rcases measured with rfl | ⟨value, rfl⟩
  · exact exists_tells_unlimited short
  · exact exists_tells_seconds short value

end

end ListingAtlas.Compile
