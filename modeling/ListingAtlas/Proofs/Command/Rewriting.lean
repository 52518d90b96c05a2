import ListingAtlas.Command.ListingCommand

/-!
What a rewritten command keeps. Every pass over the arguments only deletes, so what is left stands in
the order of the command, and a flag that one pass has deleted does not come back in a later one.
-/

namespace ListingAtlas.Command

/-! ### Flags -/

/-- An argument gives a flag if it starts with it, behind a hyphen or a slash. -/
def Gives (flag argument : String) : Prop :=
  ∃ value, argument = "-" ++ flag ++ value ∨ argument = "/" ++ flag ++ value

theorem isPrefixOf_mark_iff (mark : Char) (flag argument : String) :
    (mark :: flag.toList).isPrefixOf argument.toList = true ↔
      ∃ value, argument = String.singleton mark ++ flag ++ value := by
  rw [List.isPrefixOf_iff_prefix]
  constructor
  · intro begins
    obtain ⟨value, whole⟩ := begins
    refine ⟨String.ofList value, ?_⟩
    rw [← String.toList_inj, ← whole]
    simp
  · intro given
    obtain ⟨value, rfl⟩ := given
    exact ⟨value.toList, by simp⟩

theorem isFlag_iff (flag argument : String) : isFlag flag argument = true ↔ Gives flag argument := by
  rw [isFlag, Bool.or_eq_true, isPrefixOf_mark_iff, isPrefixOf_mark_iff, ← exists_or]
  rfl

/-! ### One flag -/

theorem sublist_removeFlag (flag : String) (takesValue : Bool) (arguments : List String) :
    (removeFlag flag takesValue arguments).Sublist arguments := by
  fun_induction removeFlag flag takesValue arguments with
  | case1 => exact List.Sublist.refl []
  | case2 argument given detached => exact List.nil_sublist _
  | case3 argument given detached value after ih => exact (ih.cons value).cons argument
  | case4 argument rest given attached ih => exact ih.cons argument
  | case5 argument rest other ih => exact ih.cons_cons argument

theorem not_isFlag_of_mem_removeFlag (flag : String) (takesValue : Bool) (arguments : List String) :
    ∀ argument ∈ removeFlag flag takesValue arguments, ¬ isFlag flag argument = true := by
  fun_induction removeFlag flag takesValue arguments with
  | case1 => exact nofun
  | case2 argument given detached => exact nofun
  | case3 argument given detached value after ih => exact ih
  | case4 argument rest given attached ih => exact ih
  | case5 argument rest other ih => exact List.forall_mem_cons.mpr ⟨other, ih⟩

theorem removeFlag_of_absent {flag : String} {arguments : List String}
    (absent : ∀ argument ∈ arguments, ¬ isFlag flag argument = true) (takesValue : Bool) :
    removeFlag flag takesValue arguments = arguments := by
  induction arguments with
  | nil => rfl
  | cons argument rest ih =>
      rw [List.forall_mem_cons] at absent
      unfold removeFlag
      rw [if_neg absent.1, ih absent.2]

/-! ### One pass for each flag -/

theorem sublist_removeFlags (flags : List String) (takesValue : Bool) (arguments : List String) :
    (removeFlags flags takesValue arguments).Sublist arguments := by
  induction flags generalizing arguments with
  | nil => exact List.Sublist.refl arguments
  | cons flag flags ih => exact (ih _).trans (sublist_removeFlag flag takesValue arguments)

/-- What the pass for a flag has left, the passes behind it can only make less. -/
theorem not_isFlag_of_mem_removeFlags (flags : List String) (takesValue : Bool)
    (arguments : List String) : ∀ argument ∈ removeFlags flags takesValue arguments,
      ∀ flag ∈ flags, ¬ isFlag flag argument = true := by
  induction flags generalizing arguments with
  | nil => exact fun _argument _left => nofun
  | cons flag flags ih =>
      intro argument left
      rw [List.forall_mem_cons]
      constructor
      · apply not_isFlag_of_mem_removeFlag flag takesValue arguments argument
        exact (sublist_removeFlags flags takesValue _).subset left
      · exact ih _ argument left

theorem removeFlags_of_absent {flags arguments : List String}
    (absent : ∀ argument ∈ arguments, ∀ flag ∈ flags, ¬ isFlag flag argument = true)
    (takesValue : Bool) : removeFlags flags takesValue arguments = arguments := by
  induction flags with
  | nil => rfl
  | cons flag flags ih =>
      have first := removeFlag_of_absent
        (fun argument member => absent argument member flag List.mem_cons_self) takesValue
      rw [removeFlags, List.foldl_cons, first]
      exact ih fun argument member other among =>
        absent argument member other (List.mem_cons_of_mem _ among)

/-! ### The source -/

theorem sublist_removeSource (arguments : List String) :
    (removeSource arguments).Sublist arguments := by
  fun_induction removeSource arguments with
  | case1 => exact List.Sublist.refl []
  | case2 argument rest compileOnly => exact (List.drop_sublist 1 rest).cons argument
  | case3 argument rest other ih => exact ih.cons_cons argument

theorem removeSource_of_absent {arguments : List String}
    (absent : ∀ argument ∈ arguments, ¬ isCompileOnly argument = true) :
    removeSource arguments = arguments := by
  induction arguments with
  | nil => rfl
  | cons argument rest ih =>
      rw [List.forall_mem_cons] at absent
      rw [removeSource, if_neg absent.1, ih absent.2]

/-! ### The whole command -/

theorem sublist_keptArguments (arguments : List String) :
    (keptArguments arguments).Sublist arguments :=
  (sublist_removeSource _).trans
    ((sublist_removeFlags debugFlags false _).trans (sublist_removeFlags outputFlags true arguments))

theorem not_isFlag_of_mem_keptArguments {arguments : List String} {argument : String}
    (kept : argument ∈ keptArguments arguments) :
    ∀ flag ∈ outputFlags ++ debugFlags, ¬ isFlag flag argument = true := by
  have undebugged := (sublist_removeSource _).subset kept
  have fileless := (sublist_removeFlags debugFlags false _).subset undebugged
  rw [List.forall_mem_append]
  constructor
  · exact not_isFlag_of_mem_removeFlags outputFlags true arguments argument fileless
  · exact not_isFlag_of_mem_removeFlags debugFlags false _ argument undebugged

theorem keptArguments_of_absent {arguments : List String}
    (noFlag : ∀ argument ∈ arguments, ∀ flag ∈ outputFlags ++ debugFlags,
      ¬ isFlag flag argument = true)
    (noCompileOnly : ∀ argument ∈ arguments, ¬ isCompileOnly argument = true) :
    keptArguments arguments = arguments := by
  have noOutput := removeFlags_of_absent (fun argument member flag among =>
    noFlag argument member flag (List.mem_append_left _ among)) true
  have noDebug := removeFlags_of_absent (fun argument member flag among =>
    noFlag argument member flag (List.mem_append_right _ among)) false
  rw [keptArguments, noOutput, noDebug, removeSource_of_absent noCompileOnly]

/-- A rewritten command writes the listing and an object beside it, and compiles the temporary source.
What it keeps besides is taken from the command in its order and gives none of the flags for outputs
and debug information; it is the whole command if that gives no such flag and does not only
compile. -/
theorem listingArguments_keeps_no_output (arguments : List String) (listing temporary : String) :
    ∃ middle : List String,
      listingArguments arguments listing temporary =
        ["/FAs", "/Fa" ++ listing, "/Fo" ++ listing ++ ".obj"] ++ middle ++ ["-c", temporary] ∧
      middle.Sublist arguments ∧
      (∀ argument ∈ middle,
        ∀ flag ∈ ["Fo", "Fd", "Fm", "Fa", "Fp", "Fe", "Fr", "Fi", "Zi", "Z7"],
          ¬ Gives flag argument) ∧
      ((∀ argument ∈ arguments, isCompileOnly argument = false ∧
          ∀ flag ∈ ["Fo", "Fd", "Fm", "Fa", "Fp", "Fe", "Fr", "Fi", "Zi", "Z7"],
            ¬ Gives flag argument) →
        middle = arguments) := by
  have flags : ["Fo", "Fd", "Fm", "Fa", "Fp", "Fe", "Fr", "Fi", "Zi", "Z7"] =
      outputFlags ++ debugFlags := rfl
  rw [flags]
  simp only [← isFlag_iff]
  refine ⟨keptArguments arguments, rfl, sublist_keptArguments arguments, ?_, ?_⟩
  · exact fun argument kept => not_isFlag_of_mem_keptArguments kept
  · intro absent
    apply keptArguments_of_absent
    · exact fun argument member => (absent argument member).2
    · intro argument member compileOnly
      exact absurd (compileOnly.symm.trans (absent argument member).1) (by decide)

/-- A detached flag takes the argument behind it, whatever that is. -/
example : keptArguments ["/Fo", "/c", "/O2", "/Zi", "main.c"] = ["/O2", "main.c"] := by decide

end ListingAtlas.Command
