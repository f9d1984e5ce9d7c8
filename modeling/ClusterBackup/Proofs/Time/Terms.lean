import ClusterBackup.Proofs.Time.Seconds
import Mathlib.Algebra.Group.Defs

/-! Texts that are sums of numbers with units.

A number is followed by its unit, and that by the next number. Where one ends and the other begins is
told by the characters alone, so a text is such a sum in one way only. What a number with a unit stands
for is left open. -/

set_option autoImplicit false

namespace ClusterBackup.Duration

open Number

/-- A number and its unit. The unit does not begin with what could belong to the number. -/
structure IsTerm (number unit : List Char) : Prop where
  numerals : ∀ c ∈ number, isNumeral c
  counted : number ≠ []
  letters : ∀ c ∈ unit, isDigit c = false
  named : ∃ c rest, unit = c :: rest ∧ isNumeral c = false

def Starts (rest : List Char) : Prop := ∀ c ∈ rest.head?, isDigit c

theorem starts_nil : Starts [] := nofun

theorem isNumeral_of_isDigit {c : Char} (digit : isDigit c) : isNumeral c := by
  simp [isNumeral, digit]

section

variable {number unit rest cs : List Char}

theorem IsTerm.takeWhile_number (term : IsTerm number unit) (rest : List Char) :
    (number ++ unit ++ rest).takeWhile isNumeral = number := by
  obtain ⟨c, more, rfl, other⟩ := term.named
  rw [List.append_assoc, List.takeWhile_append_of_pos term.numerals, List.cons_append,
    List.takeWhile_cons_of_neg (by simp [other]), List.append_nil]

theorem IsTerm.dropWhile_number (term : IsTerm number unit) (rest : List Char) :
    (number ++ unit ++ rest).dropWhile isNumeral = unit ++ rest := by
  obtain ⟨c, more, rfl, other⟩ := term.named
  rw [List.append_assoc, List.dropWhile_append_of_pos term.numerals, List.cons_append,
    List.dropWhile_cons_of_neg (by simp [other])]

theorem Starts.takeWhile_unit (starts : Starts rest) (letters : ∀ c ∈ unit, isDigit c = false) :
    (unit ++ rest).takeWhile (! isDigit ·) = unit := by
  rw [List.takeWhile_append_of_pos (by simpa using letters)]
  cases rest with
  | nil => simp
  | cons c rest => simp [starts c rfl]

theorem Starts.dropWhile_unit (starts : Starts rest) (letters : ∀ c ∈ unit, isDigit c = false) :
    (unit ++ rest).dropWhile (! isDigit ·) = rest := by
  rw [List.dropWhile_append_of_pos (by simpa using letters)]
  cases rest with
  | nil => simp
  | cons c rest => simp [starts c rfl]

theorem exists_term (counted : cs.takeWhile isNumeral ≠ []) (named : cs.dropWhile isNumeral ≠ []) :
    let unit := (cs.dropWhile isNumeral).takeWhile (! isDigit ·)
    let rest := (cs.dropWhile isNumeral).dropWhile (! isDigit ·)
    cs = cs.takeWhile isNumeral ++ unit ++ rest ∧ IsTerm (cs.takeWhile isNumeral) unit ∧ Starts rest := by
  obtain ⟨c, more, behind⟩ := List.exists_cons_of_ne_nil named
  have other : isNumeral c = false := by
    have stays := List.head?_dropWhile_not isNumeral cs
    rw [behind] at stays
    simpa using stays
  have letter : isDigit c = false := by
    by_contra digit
    simp [isNumeral_of_isDigit (Bool.not_eq_false _ ▸ digit)] at other
  refine ⟨?_, ⟨fun _ => List.mem_takeWhile_imp, counted, fun d member => ?_, ?_⟩, fun d first => ?_⟩
  · rw [List.append_assoc, List.takeWhile_append_dropWhile, List.takeWhile_append_dropWhile]
  · simpa using List.mem_takeWhile_imp member
  · exact ⟨c, _, by rw [behind, List.takeWhile_cons_of_pos (by simp [letter])], other⟩
  · have stays := List.head?_dropWhile_not (! isDigit ·) (cs.dropWhile isNumeral)
    rw [first] at stays
    simpa using stays

end

/-- A text as a sum of what its numbers with their units stand for. -/
inductive Sums {M : Type} [AddMonoid M] (value : List Char → List Char → M → Prop) :
    List Char → M → Prop where
  | nil : Sums value [] 0
  | term {number unit rest : List Char} {a b : M} : IsTerm number unit → Starts rest →
      value number unit a → Sums value rest b → Sums value (number ++ unit ++ rest) (a + b)

namespace Sums

variable {M : Type} [AddMonoid M] {value : List Char → List Char → M → Prop} {xs ys : List Char}
  {a b : M}

/-- A sum is found in one way only. -/
theorem unique (functional : ∀ number unit a b, value number unit a → value number unit b → a = b)
    (first : Sums value xs a) (second : Sums value xs b) : a = b := by
  induction first generalizing b with
  | nil =>
    generalize none : [] = cs at second
    cases second with
    | nil => rfl
    | term term => simp [term.counted] at none
  | @term number unit rest _ _ term starts stands _ ih =>
    generalize split : number ++ unit ++ rest = cs at second
    cases second with
    | nil => simp [term.counted] at split
    | @term number' unit' rest' _ _ term' starts' stands' later =>
      have numbers := term.takeWhile_number rest
      rw [split, term'.takeWhile_number] at numbers
      have others := term.dropWhile_number rest
      rw [split, term'.dropWhile_number] at others
      have units := starts.takeWhile_unit term.letters
      rw [← others, starts'.takeWhile_unit term'.letters] at units
      have rests := starts.dropWhile_unit term.letters
      rw [← others, starts'.dropWhile_unit term'.letters] at rests
      subst numbers units rests
      rw [functional _ _ _ _ stands stands', ih later]

/-- Two sums are one after the other if the second begins with a digit. -/
theorem append (starts : Starts ys) (first : Sums value xs a) (second : Sums value ys b) :
    Sums value (xs ++ ys) (a + b) := by
  induction first with
  | nil => simpa using second
  | @term number unit rest _ _ term starts' stands _ ih =>
    rw [List.append_assoc, add_assoc]
    refine .term term (fun c first => ?_) stands ih
    cases rest with
    | nil => exact starts c first
    | cons d rest => exact starts' c first

end Sums

/-! ### Reading -/

/-- A term as it is read, in nanoseconds. -/
def Reads (number unit : List Char) (nanos : Nat) : Prop := term number unit = .ok ⟨nanos⟩

section

variable {number unit rest cs : List Char} {sum d : Duration}

theorem terms_term (well : IsTerm number unit) (starts : Starts rest) :
    terms sum (number ++ unit ++ rest) = (term number unit).bind fun part =>
      match (sum + part).checked with
      | none => .error .outOfRange
      | some sum => terms sum rest := by
  have present : number ++ unit ++ rest ≠ [] := by simp [well.counted]
  have unitless : unit ++ rest ≠ [] := by
    obtain ⟨c, more, rfl, -⟩ := well.named
    simp
  rw [terms]
  simp only [well.takeWhile_number, well.dropWhile_number, starts.takeWhile_unit well.letters,
    starts.dropWhile_unit well.letters, if_neg present, if_neg unitless, dif_neg well.counted]
  rfl

/-- What is read is the sum of the terms, if it is representable. -/
theorem terms_eq_ok_iff (bounded : sum.IsRepresentable) : terms sum cs = .ok d ↔
    ∃ nanos, Sums Reads cs nanos ∧ d = ⟨sum.nanos + nanos⟩ ∧ d.IsRepresentable := by
  -- The one way follows the recursion of the reader, and the other way follows the sum.
  constructor
  · intro read
    fun_induction terms sum cs with
    | case1 sum =>
      cases read
      exact ⟨0, .nil, rfl, bounded⟩
    | case2 => cases read
    | case3 => cases read
    | case4 sum cs _ named counted ih =>
      obtain ⟨split, well, starts⟩ := exists_term counted named
      cases part : term (cs.takeWhile isNumeral) ((cs.dropWhile isNumeral).takeWhile (! isDigit ·)) with
      | error fault =>
        rw [part] at read
        cases read
      | ok part' =>
        simp only [part, Bind.bind, Except.bind] at read
        split at read
        · cases read
        · rename_i next found
          obtain ⟨rfl, fits⟩ := checked_eq_some_iff.mp found
          obtain ⟨nanos, sums, rfl, bounded'⟩ := ih _ fits read
          refine ⟨part'.nanos + nanos, ?_, congrArg Duration.mk (Nat.add_assoc ..), bounded'⟩
          have reads : Reads (cs.takeWhile isNumeral)
            ((cs.dropWhile isNumeral).takeWhile (! isDigit ·)) part'.nanos := part
          have sum := Sums.term well starts reads sums
          rwa [← split] at sum
  · rintro ⟨nanos, sums, rfl, fits⟩
    induction sums generalizing sum with
    | nil => exact terms_nil sum
    | @term number unit rest a b well starts reads later ih =>
      have next : (sum + ⟨a⟩ : Duration).checked = some ⟨sum.nanos + a⟩ :=
        checked_eq_some_iff.mpr ⟨rfl, fits.of_le (Nat.add_le_add_left (Nat.le_add_right a b) _)⟩
      rw [terms_term well starts, reads, Except.bind]
      simp only [next]
      rw [← Nat.add_assoc] at fits ⊢
      exact ih (checked_eq_some_iff.mp next).2 fits

end

/-! ### Texts one after the other -/

/-- The characters at the end that belong to no number. -/
def lastUnit (cs : List Char) : List Char := cs.rtakeWhile (! isNumeral ·)

theorem TimeUnit.letters_of_ofText? {unit : List Char} {named : TimeUnit}
    (known : TimeUnit.ofText? unit = some named) :
    unit ≠ [] ∧ (∀ c ∈ unit, isNumeral c = false) ∧ TimeUnit.ofText? (unit ++ ['.']) = none := by
  have shape : unit ≠ [] ∧ unit.all (! isNumeral ·) = true ∧ TimeUnit.ofText? (unit ++ ['.']) = none := by
    unfold TimeUnit.ofText? at known
    split at known
    case h_8 => cases known
    all_goals exact ⟨List.cons_ne_nil _ _, rfl, rfl⟩
  simpa using shape

section

variable {number unit rest cs more : List Char} {sum d : Duration} {c : Char} {nanos : Nat}

theorem exists_of_term (read : term number unit = .ok d) :
    ∃ digits named, numeral? number = some digits ∧ TimeUnit.ofText? unit = some named := by
  unfold term at read
  cases counted : numeral? number with
  | none => simp [counted, throw, throwThe, MonadExceptOf.throw] at read
  | some digits =>
    cases known : TimeUnit.ofText? unit with
    | none => simp [counted, known, throw, throwThe, MonadExceptOf.throw] at read
    | some named => exact ⟨digits, named, rfl, rfl⟩

theorem term_of_unknown {digits : List Char × List Char} (counted : numeral? number = some digits)
    (unknown : TimeUnit.ofText? unit = none) :
    term number unit = .error (.unknownUnit (String.ofList unit)) := by
  simp [term, counted, unknown, throw, throwThe, MonadExceptOf.throw]

theorem lastUnit_append {xs ys : List Char} (numeral : ∃ c ∈ ys, isNumeral c) :
    lastUnit (xs ++ ys) = lastUnit ys := by
  obtain ⟨c, member, belongs⟩ := numeral
  have cut : (ys.reverse.takeWhile (! isNumeral ·)).length ≠ ys.reverse.length := fun full => by
    have all := List.takeWhile_eq_self_iff.mp ((List.takeWhile_prefix _).eq_of_length full)
    simpa [belongs] using all c (List.mem_reverse.mpr member)
  rw [lastUnit, lastUnit, List.rtakeWhile, List.rtakeWhile, List.reverse_append, List.takeWhile_append,
    if_neg cut]

theorem IsTerm.lastUnit_eq (well : IsTerm number unit) (letters : ∀ c ∈ unit, isNumeral c = false) :
    lastUnit (number ++ unit) = unit := by
  have stops : number.reverse.takeWhile (! isNumeral ·) = [] := by
    rw [List.takeWhile_eq_nil_iff]
    intro present
    simpa using well.numerals _ (List.mem_reverse.mp (List.getElem_mem present))
  rw [lastUnit, List.rtakeWhile, List.reverse_append, List.takeWhile_append_of_pos (by simpa using letters),
    stops, List.append_nil, List.reverse_reverse]

/-- A point after a unit is taken for a part of it. -/
theorem terms_append_point (sums : Sums Reads cs nanos) (present : cs ≠ [])
    (fits : (⟨sum.nanos + nanos⟩ : Duration).IsRepresentable) (digit : isDigit c) :
    terms sum (cs ++ '.' :: c :: more) =
      .error (.unknownUnit (String.ofList (lastUnit cs ++ ['.']))) := by
  induction sums generalizing sum with
  | nil => exact absurd rfl present
  | @term number unit rest a b well starts reads later ih =>
    obtain ⟨digits, named, counted, known⟩ := exists_of_term reads
    obtain ⟨-, letters, unknown⟩ := TimeUnit.letters_of_ofText? known
    -- The point ends up in the last unit, because only a digit begins the next number.
    cases rest with
    | nil =>
      have well' : IsTerm number (unit ++ ['.']) := by
        obtain ⟨first, others, rfl, other⟩ := well.named
        refine ⟨well.numerals, well.counted, fun d member => ?_, first, others ++ ['.'], rfl, other⟩
        rcases List.mem_append.mp member with letter | point
        · exact well.letters d letter
        · rw [List.mem_singleton.mp point]
          rfl
      have starts' : Starts (c :: more) := fun d first => by
        cases first
        exact digit
      have split : number ++ unit ++ [] ++ '.' :: c :: more = number ++ (unit ++ ['.']) ++ c :: more := by
        simp
      rw [split, terms_term well' starts', term_of_unknown counted unknown, List.append_nil,
        well.lastUnit_eq letters]
      rfl
    | cons first others =>
      have numeral : ∃ c ∈ first :: others, isNumeral c :=
        ⟨first, List.mem_cons_self, isNumeral_of_isDigit (starts first rfl)⟩
      have starts' : Starts (first :: others ++ '.' :: c :: more) := starts
      have next : (sum + ⟨a⟩ : Duration).checked = some ⟨sum.nanos + a⟩ :=
        checked_eq_some_iff.mpr ⟨rfl, fits.of_le (Nat.add_le_add_left (Nat.le_add_right a b) _)⟩
      rw [List.append_assoc, terms_term well starts', reads, Except.bind, lastUnit_append numeral]
      simp only [next]
      rw [← Nat.add_assoc] at fits
      exact ih (List.cons_ne_nil _ _) fits

theorem natBelow?_term (well : IsTerm number unit) (bound : Nat) (rest : List Char) :
    natBelow? bound (String.ofList (number ++ unit ++ rest)) = none := by
  obtain ⟨first, others, rfl⟩ := List.exists_cons_of_ne_nil well.counted
  obtain ⟨letter, letters, rfl, other⟩ := well.named
  have plus : first ≠ '+' := by
    rintro rfl
    exact absurd (well.numerals '+' List.mem_cons_self) (by decide)
  have nondigit : isDigit letter = false := well.letters letter List.mem_cons_self
  rw [natBelow?, String.toList_ofList]
  simp [natOf?, plus, nondigit]

end

/-- A text with nothing to cut off that is not the bare number of seconds. -/
structure IsTermed (s : String) : Prop where
  trimmed : Text.trim s = s
  unbare : natBelow? limit64 s = none

section

variable {a b : String} {x y : Duration}

theorem IsTermed.parse_eq_ok_iff (termed : IsTermed a) : parse a = .ok x ↔
    a ≠ "" ∧ Sums Reads a.toList x.nanos ∧ x.IsRepresentable := by
  simp only [parse, termed.trimmed, termed.unbare]
  by_cases empty : a = ""
  · simp [empty]
  · rw [if_neg (by simpa using empty), terms_eq_ok_iff (by decide)]
    constructor
    · rintro ⟨nanos, sums, rfl, fits⟩
      rw [← Nat.zero_add nanos] at sums
      exact ⟨empty, sums, fits⟩
    · rintro ⟨-, sums, fits⟩
      exact ⟨x.nanos, sums, congrArg Duration.mk (Nat.zero_add _).symm, fits⟩

theorem unbare_of_sums {cs : List Char} {nanos : Nat} (sums : Sums Reads cs nanos) (present : cs ≠ [])
    (bound : Nat) (rest : List Char) : natBelow? bound (String.ofList (cs ++ rest)) = none := by
  cases sums with
  | nil => exact absurd rfl present
  | term well =>
    rw [List.append_assoc]
    exact natBelow?_term well bound _

theorem IsTermed.append (first : IsTermed a) (second : IsTermed b) (read : parse a = .ok x)
    (read' : parse b = .ok y) : IsTermed (a ++ b) := by
  obtain ⟨present, sums, -⟩ := first.parse_eq_ok_iff.mp read
  obtain ⟨present', -, -⟩ := second.parse_eq_ok_iff.mp read'
  have chars {s : String} (trimmed : Text.trim s = s) :
      Text.trimWhile Text.isBlank s.toList = s.toList := by
    have same := congrArg String.toList trimmed
    rwa [Text.trim, Text.onChars, String.toList_ofList] at same
  have kept {s : String} (trimmed : Text.trim s = s) :
      Text.dropRightWhile Text.isBlank s.toList = s.toList := by
    rw [← chars trimmed]
    exact Text.kept_trimWhile _ _
  refine ⟨?_, ?_⟩
  · rw [Text.trim, Text.onChars, String.toList_append,
      Text.trimWhile_append (kept first.trimmed) (by simpa using present) (kept second.trimmed)
        (by simpa using present'),
      chars first.trimmed, ← String.toList_append, String.ofList_toList]
  · rw [← String.ofList_toList (s := a ++ b), String.toList_append]
    exact unbare_of_sums sums (by simpa using present) _ _

theorem numeral?_point {others : List Char} {digits : List Char × List Char}
    (counted : numeral? ('.' :: others) = some digits) : others ≠ [] ∧ ∀ c ∈ others, isDigit c := by
  have point : isDigit '.' = false := rfl
  simp only [numeral?, List.takeWhile_cons, List.dropWhile_cons, point] at counted
  by_cases all : others.all isDigit
  · refine ⟨?_, List.all_eq_true.mp all⟩
    rintro rfl
    simp at counted
  · simp [all] at counted

/-- Where a sum of terms does not begin with a digit, it begins with a point and a digit. -/
theorem starts_or_point {cs : List Char} {nanos : Nat} (sums : Sums Reads cs nanos) :
    (Starts cs ∧ cs.head? ≠ some '.') ∨ ∃ c more, cs = '.' :: c :: more ∧ isDigit c := by
  cases sums with
  | nil => exact .inl ⟨starts_nil, nofun⟩
  | @term number unit rest a b well _ reads _ =>
    obtain ⟨first, others, rfl⟩ := List.exists_cons_of_ne_nil well.counted
    have numeral := well.numerals first List.mem_cons_self
    by_cases point : first = '.'
    · subst point
      obtain ⟨_, _, counted, -⟩ := exists_of_term reads
      obtain ⟨filled, all⟩ := numeral?_point counted
      obtain ⟨c, more, rfl⟩ := List.exists_cons_of_ne_nil filled
      exact .inr ⟨c, more ++ unit ++ rest, rfl, all c List.mem_cons_self⟩
    · refine .inl ⟨fun c same => ?_, by simpa using point⟩
      cases same
      simpa [isNumeral, point] using numeral

/-- Two texts one after the other are read as the sum of what they are read as, unless the second one
begins with a point. -/
theorem parse_append (first : IsTermed a) (second : IsTermed b) (read : parse a = .ok x)
    (read' : parse b = .ok y) (fits : (x + y).IsRepresentable) :
    parse (a ++ b) = if b.toList.head? = some '.'
      then .error (.unknownUnit (String.ofList (lastUnit a.toList ++ ['.']))) else .ok (x + y) := by
  have termed := first.append second read read'
  obtain ⟨present, sums, bounded⟩ := first.parse_eq_ok_iff.mp read
  obtain ⟨-, sums', -⟩ := second.parse_eq_ok_iff.mp read'
  obtain ⟨starts, other⟩ | ⟨c, more, point, digit⟩ := starts_or_point sums'
  · rw [if_neg other, termed.parse_eq_ok_iff, String.toList_append]
    exact ⟨by simp [present], sums.append starts sums', fits⟩
  · have filled : (a ++ b).isEmpty = false := by simp [present]
    have fits' : (⟨zero.nanos + x.nanos⟩ : Duration).IsRepresentable := by
      rwa [zero, Nat.zero_add]
    have nonempty : a.toList ≠ [] := by simpa using present
    simp only [parse, termed.trimmed, termed.unbare, filled, String.toList_append, point, List.head?_cons]
    exact terms_append_point sums nonempty fits' digit

/-- Half a second is not read after a minute, although each of them is read alone. -/
theorem parse_append_halfSecond :
    parse "1m" = .ok ⟨60000000000⟩ ∧ parse ".5s" = .ok ⟨500000000⟩ ∧
      parse ("1m" ++ ".5s") = .error (.unknownUnit "m.") := by
  have termed : IsTermed "1m" := ⟨by decide +kernel, by decide +kernel⟩
  have termed' : IsTermed ".5s" := ⟨by decide +kernel, by decide +kernel⟩
  have read : parse "1m" = .ok ⟨60000000000⟩ := by decide +kernel
  have read' : parse ".5s" = .ok ⟨500000000⟩ := by decide +kernel
  exact ⟨read, read', parse_append termed termed' read read' (by decide)⟩

end

end ClusterBackup.Duration
