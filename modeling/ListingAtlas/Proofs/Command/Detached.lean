import Mathlib.Data.List.Forall2
import ListingAtlas.Proofs.Command.Rewriting

/-!
Detached flags and their values. Each pass takes the values of its flag out of what earlier passes
have left, so that a detached flag in front of one that an earlier pass takes finds its value further
on. All passes together do what a single one does that remembers which flags still wait for a value;
and a command keeps the rest of its arguments just where no flag waits for a word to be kept.
-/

namespace ListingAtlas.Command

/-! ### One pass for all flags -/

/-- The pass that takes an argument by its flag, and whether the flag is detached. -/
def passOf? : List String → String → Option (Nat × Bool)
  | [], _ => none
  | flag :: flags, argument =>
      if isFlag flag argument then some (0, isDetached flag argument)
      else (passOf? flags argument).map fun (pass, detached) => (pass + 1, detached)

/-- The passes of the flags that wait for a value behind one more argument, the nearest flag first.
It takes any word, and a flag that its own pass or a later one would take. -/
def await (flags : List String) (waiting : List Nat) (argument : String) : List Nat :=
  match passOf? flags argument with
  | none => waiting.tail
  | some (pass, detached) =>
      if waiting.head?.any (· ≤ pass) then waiting.tail
      else if detached then pass :: waiting else waiting

/-- The words that no flag takes. -/
def untaken (flags : List String) : List Nat → List String → List String
  | _, [] => []
  | waiting, argument :: rest =>
      let others := untaken flags (await flags waiting argument) rest
      if (passOf? flags argument).isNone && waiting.isEmpty then argument :: others else others

section

variable {flag argument : String} {flags : List String}

theorem passOf?_of_first (given : isFlag flag argument = true) :
    passOf? (flag :: flags) argument = some (0, isDetached flag argument) :=
  if_pos given

theorem passOf?_of_other (other : ¬ isFlag flag argument = true) :
    passOf? (flag :: flags) argument =
      (passOf? flags argument).map fun (pass, detached) => (pass + 1, detached) :=
  if_neg other

/-- A flag of the first pass is served before any flag that waits for a later one. -/
theorem await_of_first (waiting : List Nat) (given : isFlag flag argument = true) :
    await (flag :: flags) (waiting.map Nat.succ) argument =
      if isDetached flag argument then 0 :: waiting.map Nat.succ else waiting.map Nat.succ := by
  unfold await
  rw [passOf?_of_first given]
  cases waiting <;> rfl

theorem await_of_other (waiting : List Nat) (other : ¬ isFlag flag argument = true) :
    await (flag :: flags) (waiting.map Nat.succ) argument =
      (await flags waiting argument).map Nat.succ := by
  unfold await
  rw [passOf?_of_other other]
  cases passOf? flags argument with
  | none => cases waiting <;> rfl
  | some found =>
      obtain ⟨pass, detached⟩ := found
      cases waiting with
      | nil => cases detached <;> rfl
      | cons first others =>
          by_cases early : first ≤ pass
          · simp [early]
          · cases detached <;> simp [early]

/-- A detached flag of the first pass takes whatever comes next. -/
theorem await_of_first_waiting (waiting : List Nat) (argument : String) :
    await flags (0 :: waiting) argument = waiting := by
  unfold await
  cases passOf? flags argument <;> rfl

theorem untaken_of_flag (waiting : List Nat) (rest : List String) {found : Nat × Bool}
    (given : passOf? flags argument = some found) :
    untaken flags waiting (argument :: rest) =
      untaken flags (await flags waiting argument) rest := by
  rw [untaken, given]
  rfl

theorem untaken_of_waiting {first : Nat} {others : List Nat} (argument : String)
    (rest : List String) :
    untaken flags (first :: others) (argument :: rest) =
      untaken flags (await flags (first :: others) argument) rest := by
  rw [untaken]
  cases passOf? flags argument <;> rfl

theorem untaken_of_word (rest : List String) (word : passOf? flags argument = none) :
    untaken flags [] (argument :: rest) = argument :: untaken flags [] rest := by
  rw [untaken, await, word]
  rfl

end

/-- The first pass may be made apart from the others. -/
theorem untaken_cons (flag : String) (flags : List String) (waiting : List Nat)
    (arguments : List String) :
    untaken (flag :: flags) (waiting.map Nat.succ) arguments =
      untaken flags waiting (removeFlag flag true arguments) := by
  fun_induction removeFlag flag true arguments generalizing waiting with
  | case1 => rfl
  | case2 argument given detached =>
      rw [untaken_of_flag _ _ (passOf?_of_first given)]
      rfl
  | case3 argument given detached value after ih =>
      have detached : isDetached flag argument = true := detached
      rw [untaken_of_flag _ _ (passOf?_of_first given), await_of_first waiting given,
        if_pos detached, untaken_of_waiting, await_of_first_waiting, ih]
  | case4 argument rest given attached ih =>
      have attached : ¬ isDetached flag argument = true := attached
      rw [untaken_of_flag _ _ (passOf?_of_first given), await_of_first waiting given,
        if_neg attached, ih]
  | case5 argument rest other ih =>
      have taken : passOf? (flag :: flags) argument = _ := passOf?_of_other other
      cases word : passOf? flags argument with
      | some found =>
          rw [word, Option.map_some] at taken
          rw [untaken_of_flag _ _ taken, untaken_of_flag _ _ word, await_of_other waiting other,
            ih]
      | none =>
          rw [word, Option.map_none] at taken
          cases waiting with
          | nil =>
              have later := ih []
              rw [List.map_nil] at later ⊢
              rw [untaken_of_word _ taken, untaken_of_word _ word, later]
          | cons first others =>
              have later : await (flag :: flags) ((first :: others).map Nat.succ) argument = _ :=
                await_of_other (first :: others) other
              rw [List.map_cons] at later ⊢
              rw [untaken_of_waiting, untaken_of_waiting, later, ih]

theorem untaken_of_no_flags (arguments : List String) : untaken [] [] arguments = arguments := by
  induction arguments with
  | nil => rfl
  | cons argument rest ih => rw [untaken_of_word _ rfl, ih]

/-- One pass for each flag, one after the other, leaves what a single one leaves that remembers the
flags that wait. -/
theorem removeFlags_eq_untaken (flags arguments : List String) :
    removeFlags flags true arguments = untaken flags [] arguments := by
  induction flags generalizing arguments with
  | nil => exact (untaken_of_no_flags arguments).symm
  | cons flag flags ih => exact (ih _).trans (untaken_cons flag flags [] arguments).symm

theorem sublist_untaken (flags : List String) (waiting : List Nat) (arguments : List String) :
    (untaken flags waiting arguments).Sublist arguments := by
  induction arguments generalizing waiting with
  | nil => exact List.Sublist.refl []
  | cons argument rest ih =>
      have others := ih (await flags waiting argument)
      rw [untaken]
      split
      · exact others.cons_cons argument
      · exact others.cons argument

/-! ### Flags without values -/

/-- Whether an argument gives one of some flags. -/
def givesAny (flags : List String) (argument : String) : Bool :=
  flags.any fun flag => isFlag flag argument

theorem removeFlag_attached (flag : String) (arguments : List String) :
    removeFlag flag false arguments = arguments.filter fun argument => !isFlag flag argument := by
  fun_induction removeFlag flag false arguments with
  | case1 => rfl
  | case2 argument given detached => cases detached
  | case3 argument given detached value after ih => cases detached
  | case4 argument rest given attached ih => rw [List.filter_cons_of_neg (by simp [given]), ih]
  | case5 argument rest other ih => rw [List.filter_cons_of_pos (by simp [other]), ih]

theorem removeFlags_attached (flags arguments : List String) :
    removeFlags flags false arguments =
      arguments.filter fun argument => !givesAny flags argument := by
  induction flags generalizing arguments with
  | nil => exact (List.filter_eq_self.mpr fun argument member => rfl).symm
  | cons flag flags ih =>
      have first : removeFlags (flag :: flags) false arguments =
          removeFlags flags false (removeFlag flag false arguments) := rfl
      rw [first, ih, removeFlag_attached, List.filter_filter]
      apply List.filter_congr
      intro argument member
      rw [givesAny, givesAny, List.any_cons, Bool.not_or, Bool.and_comm]

theorem keptArguments_eq {arguments : List String}
    (noCompileOnly : ∀ argument ∈ arguments, isCompileOnly argument = false) :
    keptArguments arguments =
      (untaken outputFlags [] arguments).filter fun argument => !givesAny debugFlags argument := by
  have absent : ∀ argument ∈ removeFlags debugFlags false (removeFlags outputFlags true arguments),
      ¬ isCompileOnly argument = true := by
    intro argument left compileOnly
    have member := (sublist_removeFlags outputFlags true arguments).subset
      ((sublist_removeFlags debugFlags false _).subset left)
    rw [noCompileOnly argument member] at compileOnly
    exact Bool.false_ne_true compileOnly
  rw [keptArguments, removeSource_of_absent absent, removeFlags_attached, removeFlags_eq_untaken]

/-! ### The rest of a command -/

/-- Whether an argument gives neither an output nor debug information. -/
def isWord (argument : String) : Bool :=
  !givesAny outputFlags argument && !givesAny debugFlags argument

/-- Whether an argument is a flag for an output and nothing else. -/
def isDetachedOutput (argument : String) : Bool :=
  outputFlags.any fun flag => argument == "-" ++ flag || argument == "/" ++ flag

/-- The words that do not stand right behind a detached flag for an output. The mark tells whether
such a flag stands in front. -/
def spared : Bool → List String → List String
  | _, [] => []
  | behind, argument :: rest =>
      let others := spared (isDetachedOutput argument) rest
      if isWord argument && !behind then argument :: others else others

/-- A rewritten command has all of them, in their order and as often, between the options for the
listing and the source. -/
def KeepsRest (arguments : List String) : Prop :=
  ∀ listing temporary : String, ∃ middle : List String,
    listingArguments arguments listing temporary =
      ["/FAs", "/Fa" ++ listing, "/Fo" ++ listing ++ ".obj"] ++ middle ++ ["-c", temporary] ∧
    (spared false arguments).Sublist middle

theorem keepsRest_iff_sublist (arguments : List String) :
    KeepsRest arguments ↔ (spared false arguments).Sublist (keptArguments arguments) := by
  constructor
  · intro keeps
    obtain ⟨middle, whole, kept⟩ := keeps "" ""
    have same : keptArguments arguments = middle :=
      List.append_cancel_left (List.append_cancel_right whole)
    rw [same]
    exact kept
  · intro kept listing temporary
    exact ⟨keptArguments arguments, rfl, kept⟩

/-- Whether no flag waits for a value at a word to be kept. -/
def sparesRest : List Nat → Bool → List String → Bool
  | _, _, [] => true
  | waiting, behind, argument :: rest =>
      (waiting.isEmpty || behind || !isWord argument) &&
        sparesRest (await outputFlags waiting argument) (isDetachedOutput argument) rest

section

variable {argument : String}

theorem passOf?_isNone (flags : List String) (argument : String) :
    (passOf? flags argument).isNone = !givesAny flags argument := by
  induction flags with
  | nil => rfl
  | cons flag flags ih =>
      rw [passOf?, givesAny, List.any_cons]
      cases isFlag flag argument with
      | true => rfl
      | false =>
          rw [if_neg Bool.false_ne_true, Option.isNone_map, ih, Bool.false_or]
          rfl

theorem isWord_eq (argument : String) :
    isWord argument = ((passOf? outputFlags argument).isNone && !givesAny debugFlags argument) := by
  rw [isWord, passOf?_isNone]

theorem exists_flag_of_passOf? {flags : List String} {found : Nat × Bool}
    (taken : passOf? flags argument = some found) :
    ∃ flag ∈ flags, isFlag flag argument = true ∧ found.2 = isDetached flag argument := by
  induction flags generalizing found with
  | nil => cases taken
  | cons flag flags ih =>
      rw [passOf?] at taken
      split at taken
      · rename_i given
        rw [← Option.some.inj taken]
        exact ⟨flag, List.mem_cons_self, given, rfl⟩
      · obtain ⟨later, takes, same⟩ := Option.map_eq_some_iff.mp taken
        obtain ⟨other, member, given, detached⟩ := ih takes
        rw [← same]
        exact ⟨other, List.mem_cons_of_mem flag member, given, detached⟩

theorem length_of_outputFlags : ∀ flag ∈ outputFlags, flag.length = 2 := by
  decide

theorem eq_flag_iff (flag argument : String) :
    argument = "-" ++ flag ∨ argument = "/" ++ flag ↔
      isFlag flag argument = true ∧ isDetached flag argument = true := by
  have mark : "-".length = 1 ∧ "/".length = 1 := by decide
  rw [isFlag_iff, isDetached, beq_iff_eq]
  constructor
  · rintro (rfl | rfl)
    · refine ⟨⟨"", Or.inl String.append_empty.symm⟩, ?_⟩
      rw [String.length_append, mark.1, Nat.add_comm]
    · refine ⟨⟨"", Or.inr String.append_empty.symm⟩, ?_⟩
      rw [String.length_append, mark.2, Nat.add_comm]
  · rintro ⟨⟨value, given⟩, short⟩
    have nothing : value = "" := by
      rcases given with rfl | rfl
      · rw [String.length_append, String.length_append, mark.1] at short
        exact String.length_eq_zero_iff.mp (by omega)
      · rw [String.length_append, String.length_append, mark.2] at short
        exact String.length_eq_zero_iff.mp (by omega)
    rw [nothing, String.append_empty, String.append_empty] at given
    exact given

theorem isDetachedOutput_iff (argument : String) :
    isDetachedOutput argument = true ↔
      ∃ flag ∈ outputFlags, isFlag flag argument = true ∧ isDetached flag argument = true := by
  unfold isDetachedOutput
  simp only [List.any_eq_true, Bool.or_eq_true, beq_iff_eq, eq_flag_iff]

/-- All flags for outputs have two letters, so whichever is given, it is detached or none is. -/
theorem isDetachedOutput_eq (argument : String) :
    isDetachedOutput argument = (passOf? outputFlags argument).any Prod.snd := by
  rw [Bool.eq_iff_iff, isDetachedOutput_iff, Option.any_eq_true]
  constructor
  · rintro ⟨flag, member, given, detached⟩
    have taken : (passOf? outputFlags argument).isNone = false := by
      rw [passOf?_isNone, Bool.not_eq_false', givesAny, List.any_eq_true]
      exact ⟨flag, member, given⟩
    obtain ⟨found, taken⟩ := Option.isSome_iff_exists.mp (Option.isNone_eq_false_iff.mp taken)
    obtain ⟨other, otherMember, _given, same⟩ := exists_flag_of_passOf? taken
    refine ⟨found, taken, ?_⟩
    rw [same, isDetached, length_of_outputFlags other otherMember]
    rwa [isDetached, length_of_outputFlags flag member] at detached
  · rintro ⟨found, taken, detached⟩
    obtain ⟨flag, member, given, same⟩ := exists_flag_of_passOf? taken
    exact ⟨flag, member, given, same.symm.trans detached⟩

end

/-- If no flag waits at a word to be kept, all of them are left. -/
theorem sublist_of_sparesRest {waiting : List Nat} {behind : Bool} {arguments : List String}
    (spares : sparesRest waiting behind arguments = true) :
    (spared behind arguments).Sublist
      ((untaken outputFlags waiting arguments).filter fun argument =>
        !givesAny debugFlags argument) := by
  induction arguments generalizing waiting behind with
  | nil => exact List.nil_sublist _
  | cons argument rest ih =>
      rw [sparesRest, Bool.and_eq_true] at spares
      obtain ⟨here, later⟩ := spares
      have others := ih later
      rw [spared, untaken]
      by_cases toKeep : (isWord argument && !behind) = true
      · obtain ⟨word, front⟩ := Bool.and_eq_true_iff.mp toKeep
        have nobody : waiting.isEmpty = true := by
          rw [Bool.not_eq_true'] at front
          simpa only [word, front, Bool.not_true, Bool.or_false] using here
        rw [isWord_eq, Bool.and_eq_true] at word
        simp only [toKeep, word.1, nobody, Bool.and_self, if_true, List.filter_cons, word.2]
        exact others.cons_cons argument
      · simp only [toKeep, Bool.false_eq_true, if_false]
        refine others.trans (List.Sublist.filter _ ?_)
        split
        · exact (List.Sublist.refl _).cons argument
        · exact List.Sublist.refl _

/-! ### Commands of one shape -/

/-- Two arguments that give the same flags alike, so that they differ in words and values alone. -/
structure Alike (one other : String) : Prop where
  output : passOf? outputFlags one = passOf? outputFlags other
  debug : givesAny debugFlags one = givesAny debugFlags other
  compileOnly : isCompileOnly one = isCompileOnly other

namespace Alike

variable {one other : String}

theorem refl (argument : String) : Alike argument argument :=
  ⟨rfl, rfl, rfl⟩

theorem isWord (alike : Alike one other) : isWord one = isWord other := by
  rw [isWord_eq, isWord_eq, alike.output, alike.debug]

theorem isDetachedOutput (alike : Alike one other) :
    isDetachedOutput one = isDetachedOutput other := by
  rw [isDetachedOutput_eq, isDetachedOutput_eq, alike.output]

theorem await (alike : Alike one other) (waiting : List Nat) :
    await outputFlags waiting one = await outputFlags waiting other := by
  rw [Command.await, Command.await, alike.output]

/-- Words are alike. -/
theorem of_words (word : Command.isWord one = true) (otherWord : Command.isWord other = true)
    (compiles : isCompileOnly one = isCompileOnly other) : Alike one other := by
  rw [isWord_eq, Bool.and_eq_true, Option.isNone_iff_eq_none, Bool.not_eq_true'] at word otherWord
  exact ⟨word.1.trans otherWord.1.symm, word.2.trans otherWord.2.symm, compiles⟩

end Alike

theorem sparesRest_of_alike {arguments others : List String}
    (alike : List.Forall₂ Alike arguments others) (waiting : List Nat) (behind : Bool) :
    sparesRest waiting behind arguments = sparesRest waiting behind others := by
  induction alike generalizing waiting behind with
  | nil => rfl
  | cons here _rest ih =>
      rw [sparesRest, sparesRest, here.isWord, here.await, here.isDetachedOutput, ih]

theorem noCompileOnly_of_alike {arguments others : List String}
    (alike : List.Forall₂ Alike arguments others)
    (noCompileOnly : ∀ argument ∈ arguments, isCompileOnly argument = false) :
    ∀ argument ∈ others, isCompileOnly argument = false := by
  induction alike with
  | nil => exact noCompileOnly
  | cons here _rest ih =>
      rw [List.forall_mem_cons] at noCompileOnly ⊢
      exact ⟨here.compileOnly.symm.trans noCompileOnly.1, ih noCompileOnly.2⟩

/-- An argument with another word for it, if it is one. -/
def reworded (argument : String) : String :=
  if isWord argument then "other" else argument

theorem alike_reworded {argument : String} (compiles : isCompileOnly argument = false) :
    Alike argument (reworded argument) := by
  unfold reworded
  split
  · rename_i word
    exact Alike.of_words word (by decide) (compiles.trans (by decide))
  · exact Alike.refl argument

theorem reworded_ne (argument : String) : reworded argument ≠ "word" := by
  unfold reworded
  split
  · decide
  · rename_i flag
    rintro rfl
    exact flag (by decide)

/-- If a flag waits at a word to be kept, a command of the same shape loses one, which stands nowhere
else in it. -/
theorem exists_alike_of_not_sparesRest {waiting : List Nat} {behind : Bool}
    {arguments : List String} (takes : sparesRest waiting behind arguments = false)
    (noCompileOnly : ∀ argument ∈ arguments, isCompileOnly argument = false) :
    ∃ others, List.Forall₂ Alike arguments others ∧ "word" ∈ spared behind others ∧
      "word" ∉ untaken outputFlags waiting others := by
  induction arguments generalizing waiting behind with
  | nil => cases takes
  | cons argument rest ih =>
      rw [List.forall_mem_cons] at noCompileOnly
      obtain ⟨compiles, restCompiles⟩ := noCompileOnly
      rw [sparesRest, Bool.and_eq_false_iff] at takes
      rcases takes with here | later
      · simp only [Bool.or_eq_false_iff, Bool.not_eq_false'] at here
        obtain ⟨⟨someone, front⟩, word⟩ := here
        have occupied : waiting ≠ [] := by
          rintro rfl
          cases someone
        obtain ⟨first, others, rfl⟩ := List.exists_cons_of_ne_nil occupied
        refine ⟨"word" :: rest.map reworded, .cons ?_ ?_, ?_, ?_⟩
        · exact Alike.of_words word (by decide) (compiles.trans (by decide))
        · rw [List.forall₂_map_right_iff, List.forall₂_same]
          exact fun other member => alike_reworded (restCompiles other member)
        · rw [spared, front]
          exact List.mem_cons_self
        · rw [untaken_of_waiting]
          intro left
          obtain ⟨other, _member, same⟩ :=
            List.mem_map.mp ((sublist_untaken outputFlags _ _).subset left)
          exact reworded_ne other same
      · obtain ⟨others, alike, kept, lost⟩ := ih later restCompiles
        have same := alike_reworded compiles
        refine ⟨reworded argument :: others, .cons same alike, ?_, ?_⟩
        · rw [spared, ← same.isDetachedOutput]
          split
          · exact List.mem_cons_of_mem _ kept
          · exact kept
        · rw [untaken, ← same.await]
          split
          · rw [List.mem_cons, not_or]
            exact ⟨(reworded_ne argument).symm, lost⟩
          · exact lost

/-- Commands of one shape keep the rest, whatever words they are made of, just if no flag waits for a
value at a word to be kept. A detached flag for an output waits until a word comes, or a flag that
its own pass or a later one would take; of several that wait, the last one is served first. -/
theorem keepsRest_whatever_words_iff {arguments : List String}
    (noCompileOnly : ∀ argument ∈ arguments, isCompileOnly argument = false) :
    (∀ others, List.Forall₂ Alike arguments others → KeepsRest others) ↔
      sparesRest [] false arguments = true := by
  constructor
  · intro keeps
    by_contra takes
    obtain ⟨others, alike, kept, lost⟩ :=
      exists_alike_of_not_sparesRest (Bool.not_eq_true _ ▸ takes) noCompileOnly
    have left := ((keepsRest_iff_sublist others).mp (keeps others alike)).subset kept
    rw [keptArguments_eq (noCompileOnly_of_alike alike noCompileOnly)] at left
    exact lost (List.mem_of_mem_filter left)
  · intro spares others alike
    rw [sparesRest_of_alike alike] at spares
    rw [keepsRest_iff_sublist, keptArguments_eq (noCompileOnly_of_alike alike noCompileOnly)]
    exact sublist_of_sparesRest spares

/-- The second flag is served first, so the first one takes a flag. -/
theorem keepsRest_with_values :
    let arguments := ["/nologo", "/Fd", "/Fo", "main.obj", "/Femain.exe", "/O2", "/Zi", "/O2"]
    (∀ argument ∈ arguments, isCompileOnly argument = false) ∧
      spared false arguments = ["/nologo", "/O2", "/O2"] ∧ KeepsRest arguments := by
  intro arguments
  have noCompileOnly : ∀ argument ∈ arguments, isCompileOnly argument = false := by decide
  refine ⟨noCompileOnly, by decide, ?_⟩
  exact (keepsRest_whatever_words_iff noCompileOnly).mpr (by decide) arguments
    (List.forall₂_same.mpr fun argument _member => Alike.refl argument)

/-- The flag for the object goes first, and then the one for the listing has a word in front that is
not its value. -/
theorem word_behind_attached_lost :
    let arguments := ["/Fa", "/Fomain.obj", "/O2"]
    (∀ argument ∈ arguments, isCompileOnly argument = false) ∧
      spared false arguments = ["/O2"] ∧ ¬ KeepsRest arguments := by
  refine ⟨by decide, by decide, ?_⟩
  rw [keepsRest_iff_sublist]
  decide

end ListingAtlas.Command
