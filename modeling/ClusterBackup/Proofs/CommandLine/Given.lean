import ClusterBackup.CommandLine.Flag
import ClusterBackup.Proofs.Text.Pieces
import Mathlib.Data.List.Basic

/-! Arguments that give flags their values after an equals sign: all of them are read, in their
order, and then what the environment has for flags that are not given. -/

set_option autoImplicit false

namespace ClusterBackup.CommandLine

/-- A flag with the text that is given for it. -/
structure Given where
  flag : Flag
  text : String
  deriving DecidableEq, Repr

namespace Given

def argument (g : Given) : String := "--" ++ g.flag.name ++ "=" ++ g.text

def read (g : Given) : Except UsageFault (String × Value) :=
  (g.flag.kind.read g.text).map fun value => (g.flag.name, value)

end Given

/-- The flag can be given a value after an equals sign. -/
structure Flag.Takes (flags : List Flag) (flag : Flag) : Prop where
  known : flags.find? (·.name == flag.name) = some flag
  named : '=' ∉ flag.name.toList
  other : flag.name ≠ "help"
  valued : flag.arity ≠ .none

instance (flags : List Flag) (flag : Flag) : Decidable (flag.Takes flags) :=
  decidable_of_iff (flags.find? (·.name == flag.name) = some flag ∧ '=' ∉ flag.name.toList ∧
      flag.name ≠ "help" ∧ flag.arity ≠ .none)
    ⟨fun ⟨known, named, other, valued⟩ => ⟨known, named, other, valued⟩,
      fun takes => ⟨takes.known, takes.named, takes.other, takes.valued⟩⟩

theorem Shape.ofArgument_argument {g : Given} (named : '=' ∉ g.flag.name.toList) :
    ofArgument g.argument = .long g.flag.name (some g.text) := by
  have chars : g.argument.toList = '-' :: '-' :: (g.flag.name.toList ++ '=' :: g.text.toList) := by
    simp [Given.argument]
  have cut := Text.cutAt_append named g.text.toList
  -- Something follows the two dashes, so that they are no separator.
  obtain ⟨c, rest, tail⟩ := List.exists_cons_of_ne_nil
    (List.append_ne_nil_of_right_ne_nil g.flag.name.toList (List.cons_ne_nil '=' g.text.toList))
  unfold ofArgument
  rw [chars, tail]
  rw [tail] at cut
  simp [cut]

namespace State

def extend (s : State) (values : Values) : State := { s with values := s.values ++ values }

/-- No value is open or still to come. -/
structure Settled (s : State) : Prop where
  closed : s.open' = none
  joined : s.separated = false

variable {s : State} {g : Given} {flags : List Flag}

theorem Settled.extend (settled : s.Settled) (values : Values) : (s.extend values).Settled :=
  ⟨settled.closed, settled.joined⟩

theorem extend_nil (s : State) : s.extend [] = s := by simp [extend]

theorem extend_extend (s : State) (first second : Values) :
    (s.extend first).extend second = s.extend (first ++ second) := by
  simp [extend]

theorem holds_extend (s : State) (values : Values) (flag : Flag) :
    (s.extend values).holds flag = (s.holds flag || values.any (·.1 == flag.name)) := by
  simp [holds, extend]

theorem accept_eq (fresh : s.holds g.flag = false) :
    s.accept g.flag (some g.text) = g.read.map fun value => s.extend [value] := by
  unfold accept Given.read
  simp only [fresh, Bool.false_eq_true, if_false]
  change (g.flag.kind.read g.text >>= fun value => pure (s.extend [(g.flag.name, value)])) = _
  cases g.flag.kind.read g.text <;> rfl

theorem close_eq (settled : s.Settled) : s.close = .ok s := by rw [close, settled.closed]

theorem step_argument (settled : s.Settled) (takes : g.flag.Takes flags)
    (fresh : s.holds g.flag = false) :
    s.step flags g.argument = g.read.map fun value => s.extend [value] := by
  have accepts : (do (← s.close).accept g.flag (some g.text)) =
      g.read.map fun value => s.extend [value] := by
    rw [close_eq settled]
    exact accept_eq fresh
  simp only [step, settled.joined, Bool.false_eq_true, if_false,
    Shape.ofArgument_argument takes.named, long, if_neg takes.other, takes.known]
  cases arity : g.flag.arity with
  | none => exact absurd arity takes.valued
  | one => exact accepts
  | optional value => exact accepts

end State

def readAll (givens : List Given) : Except UsageFault Values := givens.mapM Given.read

theorem readAll_nil : readAll [] = .ok [] := rfl

theorem readAll_cons (g : Given) (rest : List Given) :
    readAll (g :: rest) = do return (← g.read) :: (← readAll rest) := by
  rw [readAll, List.mapM_cons]
  rfl

theorem Given.name_of_read {g : Given} {value : String × Value} (read : g.read = .ok value) :
    value.1 = g.flag.name := by
  unfold Given.read at read
  cases answer : g.flag.kind.read g.text with
  | error fault =>
    rw [answer] at read
    cases read
  | ok v =>
    rw [answer] at read
    cases read
    rfl

theorem names_of_readAll {givens : List Given} {values : Values}
    (read : readAll givens = .ok values) : values.map (·.1) = givens.map (·.flag.name) := by
  induction givens generalizing values with
  | nil =>
    cases read
    rfl
  | cons g rest ih =>
    rw [readAll_cons] at read
    cases first : g.read with
    | error fault =>
      rw [first] at read
      cases read
    | ok value =>
      cases others : readAll rest with
      | error fault =>
        rw [first, others] at read
        cases read
      | ok more =>
        rw [first, others] at read
        cases read
        rw [List.map_cons, List.map_cons, Given.name_of_read first, ih others]

theorem State.holds_of_read {s : State} {g : Given} {flag : Flag} {value : String × Value}
    (read : g.read = .ok value) (other : g.flag.name ≠ flag.name) :
    (s.extend [value]).holds flag = s.holds flag := by
  have named := Given.name_of_read read
  simp [holds_extend, named, other]

theorem foldlM_step {flags : List Flag} {givens : List Given} {s : State}
    (settled : s.Settled) (takes : ∀ g ∈ givens, g.flag.Takes flags)
    (fresh : ∀ g ∈ givens, s.holds g.flag = false)
    (distinct : (givens.map (·.flag.name)).Nodup) :
    (givens.map Given.argument).foldlM (State.step flags) s = (readAll givens).map s.extend := by
  induction givens generalizing s with
  | nil => exact congrArg Except.ok (State.extend_nil s).symm
  | cons g rest ih =>
    have first := State.step_argument settled (takes g List.mem_cons_self)
      (fresh g List.mem_cons_self)
    rw [List.map_cons, List.foldlM_cons, first, readAll_cons]
    cases read : g.read with
    | error fault => rfl
    | ok value =>
      -- The next arguments have other names than this one.
      obtain ⟨other, distinct⟩ := List.nodup_cons.mp distinct
      have later := ih (settled.extend [value])
        (fun h member => takes h (List.mem_cons_of_mem g member)) (fun h member => ?_) distinct
      · change (rest.map Given.argument).foldlM (State.step flags) (s.extend [value]) = _
        rw [later]
        cases readAll rest with
        | error fault => rfl
        | ok values => exact congrArg Except.ok (State.extend_extend s [value] values)
      · have differ : g.flag.name ≠ h.flag.name := fun same =>
          other (List.mem_map.mpr ⟨h, member, same.symm⟩)
        rw [State.holds_of_read read differ]
        exact fresh h (List.mem_cons_of_mem g member)

def Flag.inherited? (environment : String → Option String) (flag : Flag) : Option Given :=
  (flag.variable'.bind environment).map (Given.mk flag)

theorem foldlM_inherit {environment : String → Option String} {flags : List Flag} {s : State}
    (distinct : (flags.map Flag.name).Nodup) :
    flags.foldlM (State.inherit environment) s =
      (readAll ((flags.filter fun flag => ! s.holds flag).filterMap
        (Flag.inherited? environment))).map s.extend := by
  induction flags generalizing s with
  | nil => exact congrArg Except.ok (State.extend_nil s).symm
  | cons flag rest ih =>
    obtain ⟨other, distinct⟩ := List.nodup_cons.mp distinct
    rw [List.foldlM_cons, State.inherit]
    cases found : flag.variable'.bind environment with
    | none =>
      have nothing : flag.inherited? environment = none := by rw [Flag.inherited?, found]; rfl
      change rest.foldlM (State.inherit environment) s = _
      rw [ih distinct]
      cases held : s.holds flag <;> simp [held, nothing]
    | some text =>
      have something : flag.inherited? environment = some ⟨flag, text⟩ := by
        rw [Flag.inherited?, found]; rfl
      cases held : s.holds flag with
      | true =>
        change rest.foldlM (State.inherit environment) s = _
        rw [ih distinct]
        simp [held]
      | false =>
        have accepted := State.accept_eq (g := ⟨flag, text⟩) held
        simp only [Bool.false_eq_true, if_false, accepted, List.filter_cons, held, Bool.not_false,
          if_true, List.filterMap_cons, something, readAll_cons]
        cases read : (Given.mk flag text).read with
        | error fault => rfl
        | ok value =>
          -- What is held of the flags that follow does not change.
          have same : rest.filter (fun flag => ! (s.extend [value]).holds flag) =
              rest.filter fun flag => ! s.holds flag := List.filter_congr fun f member => by
            have differ : flag.name ≠ f.name := fun same =>
              other (List.mem_map.mpr ⟨f, member, same.symm⟩)
            rw [State.holds_of_read read differ]
          change rest.foldlM (State.inherit environment) (s.extend [value]) = _
          rw [ih distinct, same]
          cases readAll ((rest.filter fun flag => ! s.holds flag).filterMap
              (Flag.inherited? environment)) with
          | error fault => rfl
          | ok values => exact congrArg Except.ok (State.extend_extend s [value] values)

theorem readFlags_given (environment : String → Option String) {flags : List Flag}
    {givens : List Given} (takes : ∀ g ∈ givens, g.flag.Takes flags)
    (distinct : (givens.map (·.flag.name)).Nodup) (names : (flags.map Flag.name).Nodup) :
    readFlags flags environment (givens.map Given.argument) = do
      let values ← readAll givens
      let more ← readAll ((flags.filter fun flag =>
        ! (givens.map (·.flag.name)).contains flag.name).filterMap (Flag.inherited? environment))
      return values ++ more := by
  have settled : State.Settled {} := ⟨rfl, rfl⟩
  rw [readFlags, foldlM_step settled takes (fun _ _ => rfl) distinct]
  cases read : readAll givens with
  | error fault => rfl
  | ok values =>
    have held (flag : Flag) : (State.extend {} values).holds flag =
        (givens.map (·.flag.name)).contains flag.name := by
      rw [State.holds_extend, ← names_of_readAll read, Bool.eq_iff_iff]
      simp [State.holds]
    change (do
      let state ← (State.extend {} values).close
      let state ← flags.foldlM (State.inherit environment) state
      return state.values) = _
    rw [State.close_eq (settled.extend values)]
    change (flags.foldlM (State.inherit environment) (State.extend {} values) >>= fun state =>
      pure state.values) = _
    rw [foldlM_inherit names]
    simp only [held]
    cases readAll ((flags.filter fun flag =>
        ! (givens.map (·.flag.name)).contains flag.name).filterMap (Flag.inherited? environment)) with
    | error fault => rfl
    | ok more => rfl

end ClusterBackup.CommandLine
