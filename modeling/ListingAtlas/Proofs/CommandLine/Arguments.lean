import ListingAtlas.CommandLine.Invocation
import ListingAtlas.Proofs.Outcome

/-!
What a command line that makes sense asks for: a listing or a command, but never both. Whichever of
the two comes second is a misuse, however many other arguments stand between them.
-/

namespace ListingAtlas.CommandLine

/-! ### Values -/

/-- No more than one of a listing and a command is given. -/
def Options.OneOrigin (options : Options) : Prop :=
  options.listing = none ∨ options.command = none

theorem Options.OneOrigin.set {options next : Options} {switch : Switch} {value : Value}
    (one : options.OneOrigin) (done : options.set switch value = .ok next) : next.OneOrigin := by
  cases switch with
  | listing =>
      change options.setListing value = .ok next at done
      unfold Options.setListing at done
      split at done
      · cases done
      · rename_i noCommand
        rw [← Except.ok.inj done]
        exact Or.inr (by simpa using noCommand)
  | command =>
      change options.setCommand value = .ok next at done
      unfold Options.setCommand at done
      split at done
      · cases done
      · rename_i noListing
        rw [← Except.ok.inj done]
        exact Or.inl (by simpa using noListing)
  | dialect =>
      change options.setDialect value = .ok next at done
      unfold Options.setDialect at done
      simp only at done
      split at done
      · rw [← Except.ok.inj done]
        exact one
      · split at done
        · rw [← Except.ok.inj done]
          exact one
        · cases done
  | timeout =>
      change options.setTimeout value = .ok next at done
      unfold Options.setTimeout at done
      split at done
      · rw [← Except.ok.inj done]
        exact one
      · split at done
        · rw [← Except.ok.inj done]
          exact one
        · cases done
  | target | workingDirectory | buildDirectory | formats | outputDirectory | help | verbose =>
      rw [← Except.ok.inj done]
      exact one

/-- Nothing that is given is void. -/
def Options.Solid (options : Options) : Prop :=
  options.command ≠ some .void ∧ options.dialect ≠ .void ∧ options.timeout ≠ some .void

theorem Options.Solid.set {options next : Options} {switch : Switch} {value : Value}
    (solid : options.Solid) (worth : switch.takesValue = true → value ≠ .void)
    (done : options.set switch value = .ok next) : next.Solid := by
  obtain ⟨command, dialect, timeout⟩ := solid
  cases switch with
  | command =>
      change options.setCommand value = .ok next at done
      unfold Options.setCommand at done
      split at done
      · cases done
      · rw [← Except.ok.inj done]
        exact ⟨fun same => worth rfl (Option.some.inj same), dialect, timeout⟩
  | listing =>
      change options.setListing value = .ok next at done
      unfold Options.setListing at done
      split at done
      · cases done
      · rw [← Except.ok.inj done]
        exact ⟨command, dialect, timeout⟩
  | dialect =>
      change options.setDialect value = .ok next at done
      unfold Options.setDialect at done
      cases value with
      | void => exact absurd rfl (worth rfl)
      | text key =>
          simp only at done
          split at done
          · rw [← Except.ok.inj done]
            exact ⟨command, nofun, timeout⟩
          · cases done
  | timeout =>
      change options.setTimeout value = .ok next at done
      unfold Options.setTimeout at done
      cases value with
      | void => exact absurd rfl (worth rfl)
      | text limit =>
          simp only at done
          split at done
          · rw [← Except.ok.inj done]
            exact ⟨command, dialect, nofun⟩
          · cases done
  | target | workingDirectory | buildDirectory | formats | outputDirectory | help | verbose =>
      rw [← Except.ok.inj done]
      exact ⟨command, dialect, timeout⟩

/-! ### Reading arguments -/

/-- What a switch can be given: a flag anything, any other one a text that stands for a value. -/
def Gives (edition : Edition) (switch : Switch) (value : Value) : Prop :=
  switch.takesValue = true →
    (∃ text, value = .text text) ∨ ∃ characters, value = .ofCharacters edition characters

theorem takesValue_of_short {letter : Char} {switch : Switch}
    (found : spellings.lookup (String.ofList ['-', letter]) = some switch) :
    switch.takesValue = false := by
  have short : ∀ item ∈ spellings, item.1.toList.length = 2 → item.2.takesValue = false := by
    decide
  obtain ⟨before, after, parts, _fresh⟩ := List.lookup_eq_some_iff.mp found
  refine short (String.ofList ['-', letter], switch) ?_ (by simp)
  rw [parts]
  exact List.mem_append_right _ List.mem_cons_self

/-- What flags are run together with are flags. -/
theorem flags_of_splitAdjoined {edition : Edition} {switch : Switch} {rest : List Char}
    {flags : Flags} (flag : switch.takesValue = false)
    (split : splitAdjoined edition switch rest = .ok flags) :
    ∀ other ∈ flags.switches, other.takesValue = false := by
  have single {left : Option String} (same : Flags.mk [switch] left = flags) :
      ∀ other ∈ flags.switches, other.takesValue = false := by
    intro other member
    rw [← same] at member
    rw [List.mem_singleton.mp member]
    exact flag
  induction rest generalizing switch flags with
  | nil => exact single (Except.ok.inj split)
  | cons letter rest ih =>
      rw [splitAdjoined] at split
      cases found : spellings.lookup (String.ofList ['-', letter]) with
      | none =>
          rw [found] at split
          simp only at split
          unfold strayLetter at split
          split at split
          · cases split
          · cases split
          · cases split
          · exact single (Except.ok.inj split)
      | some next =>
          rw [found] at split
          obtain ⟨others, splits, rfl⟩ := map_eq_ok_iff.mp split
          have flagNext := takesValue_of_short found
          intro other member
          rcases List.mem_cons.mp member with rfl | later
          · exact flag
          · refine ih flagNext splits ?_ other later
            intro left same other member
            rw [← same] at member
            rw [List.mem_singleton.mp member]
            exact flagNext

theorem flags_of_splitFlags {edition : Edition} {switch : Switch} {attached : Attached}
    {flags : Flags} (flag : switch.takesValue = false)
    (split : splitFlags edition switch attached = .ok flags) :
    ∀ other ∈ flags.switches, other.takesValue = false := by
  cases attached with
  | nothing =>
      rw [← Except.ok.inj split]
      intro other member
      rw [List.mem_singleton.mp member]
      exact flag
  | assigned value => cases split
  | adjoined rest => exact flags_of_splitAdjoined flag split

namespace Reading

/-- What the setting of a switch keeps, reading arguments keeps. -/
structure Keeps (edition : Edition) (kept : Options → Prop) : Prop where
  set : ∀ {options next : Options} {switch : Switch} {value : Value}, kept options →
    Gives edition switch value → options.set switch value = .ok next → kept next

namespace Keeps

variable {edition : Edition} {kept : Options → Prop} (keeps : Keeps edition kept)
  {reading next : Reading} {switch : Switch}

include keeps

theorem assign {value : Value} (gives : Gives edition switch value) (here : kept reading.options)
    (done : reading.assign switch value = .ok next) : kept next.options := by
  unfold Reading.assign at done
  split at done
  · rename_i options set
    rw [← Except.ok.inj done]
    exact keeps.set here gives set
  · cases done

theorem raiseFlag (flag : switch.takesValue = false) (here : kept reading.options)
    (done : reading.raiseFlag switch = .ok next) : kept next.options := by
  have gives : Gives edition switch .void := by
    intro takes
    rw [flag] at takes
    cases takes
  unfold Reading.raiseFlag at done
  split at done
  · cases done
  · split at done
    · rename_i options set
      rw [← Except.ok.inj done]
      exact keeps.set here gives set
    · cases done

theorem raiseAll {switches : List Switch} (flags : ∀ switch ∈ switches, switch.takesValue = false)
    (here : kept reading.options)
    (done : switches.foldlM Reading.raiseFlag reading = .ok next) : kept next.options := by
  induction switches generalizing reading with
  | nil =>
      rw [← Except.ok.inj done]
      exact here
  | cons switch switches ih =>
      obtain ⟨between, raised, done⟩ := bind_eq_ok_iff.mp done
      exact ih (fun other member => flags other (List.mem_cons_of_mem switch member))
        (keeps.raiseFlag (flags switch List.mem_cons_self) here raised) done

theorem raiseFlags {attached : Attached} (flag : switch.takesValue = false)
    (here : kept reading.options)
    (done : reading.raiseFlags edition switch attached = .ok next) : kept next.options := by
  unfold Reading.raiseFlags at done
  split at done
  · cases done
  · rename_i flags split
    have still : kept (flags.left.elim reading reading.reject).options := by
      cases flags.left <;> exact here
    exact keeps.raiseAll (flags_of_splitFlags flag split) still done

theorem readAll {arguments : List Argument} (here : kept reading.options)
    (done : reading.readAll edition arguments = .ok next) : kept next.options := by
  fun_induction Reading.readAll edition reading arguments with
  | case1 reading =>
      rw [← Except.ok.inj done]
      exact here
  | case2 _ _ _ ih | case5 _ _ _ _ _ ih | case7 _ _ _ ih => exact ih here done
  | case3 _ _ _ _ ih | case6 _ _ _ _ ih => exact ih here done
  | case4 _ _ _ _ _ ih => exact ih here done
  | case8 reading switch _takes value others ih =>
      obtain ⟨between, assigned, done⟩ := bind_eq_ok_iff.mp done
      exact ih between (keeps.assign (fun _takes => Or.inl ⟨value, rfl⟩) here assigned) done
  | case9 => cases done
  | case10 reading switch _takes value rest ih | case11 reading switch _takes value rest ih =>
      obtain ⟨between, assigned, done⟩ := bind_eq_ok_iff.mp done
      exact ih between (keeps.assign (fun _takes => Or.inr ⟨value, rfl⟩) here assigned) done
  | case12 reading switch attached rest flag ih =>
      obtain ⟨between, raised, done⟩ := bind_eq_ok_iff.mp done
      exact ih between (keeps.raiseFlags (by simpa using flag) here raised) done

end Keeps

end Reading

/-- What the setting of switches keeps holds of what a command line asks for. -/
theorem kept_of_parse {edition : Edition} {kept : Options → Prop}
    (keeps : Reading.Keeps edition kept) (initial : kept {}) {arguments : List String}
    {invocation : Invocation} (parsed : Invocation.parse edition arguments = .ok invocation) :
    kept invocation.options := by
  unfold Invocation.parse at parsed
  split at parsed
  · cases parsed
  · obtain ⟨reading, read, parsed⟩ := bind_eq_ok_iff.mp parsed
    have here : kept reading.options := keeps.readAll initial read
    unfold Reading.invocation at parsed
    cases source : reading.source with
    | none =>
        simp only [source] at parsed
        cases parsed
    | some name =>
        simp only [source] at parsed
        split at parsed
        · rename_i complete
          split at complete
          · cases complete
          · split at complete
            · rw [← Except.ok.inj parsed, ← Except.ok.inj complete]
              exact here
            · cases complete
        · cases parsed

/-- A command line that makes sense gives a listing or a command, and not both. -/
theorem oneOrigin_of_parse {edition : Edition} {arguments : List String} {invocation : Invocation}
    (parsed : Invocation.parse edition arguments = .ok invocation) :
    invocation.options.OneOrigin :=
  kept_of_parse ⟨fun one _gives done => one.set done⟩ (Or.inl rfl) parsed

end ListingAtlas.CommandLine
