import ClusterBackup.Proofs.Selector.Query
import Mathlib.Data.Bool.AllAny
import Mathlib.Data.List.Forall2

/-! Reading a query of terms that were put together one by one.

What is printed of a term is read back as that term, whatever comes behind it: its words end at
signs and blanks only, and its commas are inside of a list. -/

set_option autoImplicit false

namespace ClusterBackup.Cluster.Query

open Text

/-! ### Words -/

def IsPlain (c : Char) : Prop := isSpace c = false ∧ sign? c = none

instance : DecidablePred IsPlain := fun _ => inferInstanceAs (Decidable (_ ∧ _))

def breaks : List Char := [' ', '\t', '\r', '\n', ',', '(', ')', '!', '=', '<', '>']

theorem isPlain_of_not_mem {c : Char} (other : c ∉ breaks) : IsPlain c := by
  simp only [breaks, List.mem_cons, List.not_mem_nil, or_false, not_or] at other
  constructor
  · simp [isSpace, other]
  · unfold sign?
    split <;> simp_all

theorem isPlain_of_isNameChar {c : Char} (inside : isNameChar c = true) : IsPlain c := by
  refine isPlain_of_not_mem fun member => ?_
  have none : ∀ d ∈ breaks, isNameChar d = false :=
    List.all_iff_forall_prop.mp (by decide)
  exact absurd inside (by simp [none c member])

theorem plain_of_isName {cs : List Char} (name : isName cs = true) : ∀ c ∈ cs, IsPlain c := by
  simp only [isName, Bool.and_eq_true, List.all_eq_true] at name
  exact fun c member => isPlain_of_isNameChar (name.1.1.2 c member)

theorem plain_of_isDomain {cs : List Char} (domain : isDomain cs = true) : ∀ c ∈ cs, IsPlain c := by
  simp only [isDomain, Bool.and_eq_true, List.all_eq_true] at domain
  refine fun c member => isPlain_of_not_mem fun broken => ?_
  have none : ∀ d ∈ breaks, (isDomainEnd d || d = '-' || d = '.') = false :=
    List.all_iff_forall_prop.mp (by decide)
  exact absurd (domain.1.2 c member) (by rw [none c broken]; exact Bool.false_ne_true)

theorem plain_of_isKey {key : String} (legal : isKey key = true) : ∀ c ∈ key.toList, IsPlain c := by
  intro c member
  have placed := mem_splitAt '/' member
  unfold isKey at legal
  split at legal
  case h_1 name whole =>
    rw [whole] at placed
    rcases placed with rfl | ⟨piece, listed, inside⟩
    · exact isPlain_of_not_mem (by decide)
    · obtain rfl := List.mem_singleton.mp listed
      exact plain_of_isName legal c inside
  case h_2 domain name whole =>
    rw [whole] at placed
    rw [Bool.and_eq_true] at legal
    rcases placed with rfl | ⟨piece, listed, inside⟩
    · exact isPlain_of_not_mem (by decide)
    · rcases List.mem_pair.mp listed with rfl | rfl
      · exact plain_of_isDomain legal.1 c inside
      · exact plain_of_isName legal.2 c inside
  case h_3 => exact absurd legal Bool.false_ne_true

theorem plain_of_isValue {value : String} (legal : isValue value = true) :
    ∀ c ∈ value.toList, IsPlain c := by
  simp only [isValue, Bool.or_eq_true, decide_eq_true_eq] at legal
  rcases legal with rfl | name
  · exact fun c member => absurd member List.not_mem_nil
  · exact plain_of_isName name

theorem ne_empty_of_isKey {key : String} (legal : isKey key = true) : key ≠ "" := by
  rintro rfl
  exact absurd legal (by decide)

theorem ended_toList {word : String} (filled : word ≠ "") : ended word.toList = [.word word] := by
  rw [ended, if_neg (by simpa using filled), String.ofList_toList]

/-! ### Scanning -/

variable {xs rest : List Char}

theorem scan_plain (plain : ∀ c ∈ xs, IsPlain c) (word rest : List Char) :
    scan word (xs ++ rest) = scan (word ++ xs) rest := by
  induction xs generalizing word with
  | nil => rw [List.append_nil, List.nil_append]
  | cons c tail ih =>
    rw [List.forall_mem_cons] at plain
    obtain ⟨solid, unsigned⟩ := plain.1
    -- The signs of two characters begin with signs, so a plain character begins neither.
    rw [List.cons_append, scan.eq_4]
    · simp [solid, unsigned, ih plain.2]
    · rintro _ rfl _
      cases unsigned
    · rintro _ rfl _
      cases unsigned

def Ends (rest : List Char) : Prop := ∀ c ∈ rest.head?, ¬ IsPlain c

theorem scan_ends (ends : Ends rest) (word : List Char) :
    scan word rest = ended word ++ scan [] rest := by
  fun_cases scan word rest with
  | case1 => simp [scan, ended]
  | case2 => simp [scan, ended]
  | case3 => simp [scan, ended]
  | case4 c rest single other space => simp [scan.eq_4 _ _ _ single other, space, ended]
  | case5 c rest single other solid token signed =>
    simp [scan.eq_4 _ _ _ single other, solid, signed, ended]
  | case6 c rest single other solid unsigned =>
    exact absurd ⟨Bool.eq_false_iff.mpr solid, unsigned⟩ (ends c rfl)

theorem scan_word (plain : ∀ c ∈ xs, IsPlain c) (ends : Ends rest) :
    scan [] (xs ++ rest) = ended xs ++ scan [] rest := by
  rw [scan_plain plain, List.nil_append, scan_ends ends]

theorem ends_cons {c : Char} (broken : c ∈ breaks) (rest : List Char) : Ends (c :: rest) := by
  intro d same plain
  obtain rfl := Option.some.inj same
  have none : ∀ d ∈ breaks, (! isSpace d && (sign? d).isNone) = false :=
    List.all_iff_forall_prop.mp (by decide)
  exact absurd (none _ broken) (by simp [plain.1, plain.2])

theorem scan_sign {c : Char} {token : Token} (signed : sign? c = some token)
    (single : rest.head? ≠ some '=') : scan [] (c :: rest) = token :: scan [] rest := by
  have solid : isSpace c = false := by
    by_contra space
    have none : ∀ d : Char, isSpace d = true → sign? d = none := by
      intro d space
      simp only [isSpace, Bool.or_eq_true, decide_eq_true_eq] at space
      rcases space with ((rfl | rfl) | rfl) | rfl <;> rfl
    rw [none c (by simpa using space)] at signed
    cases signed
  rw [scan.eq_4]
  · simp [solid, signed, ended]
  · rintro _ - rfl
    exact single rfl
  · rintro _ - rfl
    exact single rfl

theorem scan_comma (rest : List Char) : scan [] (',' :: rest) = .comma :: scan [] rest := rfl

/-! ### Lists -/

/-- The tokens of a list behind its bracket. -/
def itemTokens (items : List (List Char)) : List Token := [Token.comma].intercalate (items.map ended)

theorem itemTokens_cons_cons (item next : List Char) (items : List (List Char)) :
    itemTokens (item :: next :: items) = ended item ++ .comma :: itemTokens (next :: items) := by
  simp [itemTokens]

theorem scan_items {items : List (List Char)} (plain : ∀ item ∈ items, ∀ c ∈ item, IsPlain c)
    (rest : List Char) :
    scan [] (joinWith [','] items ++ ')' :: rest) = itemTokens items ++ .closing :: scan [] rest := by
  have closing (rest : List Char) : scan [] (')' :: rest) = .closing :: scan [] rest := rfl
  induction items with
  | nil => exact closing rest
  | cons item others ih =>
    rw [List.forall_mem_cons] at plain
    cases others with
    | nil =>
      have last : joinWith [','] [item] = item := rfl
      rw [last, scan_word plain.1 (ends_cons (by decide) rest), closing]
      simp [itemTokens]
    | cons next others =>
      rw [joinWith_cons_cons, List.append_assoc, List.append_assoc,
        List.singleton_append, scan_word plain.1 (ends_cons (by decide) _), scan_comma, ih plain.2,
        itemTokens_cons_cons, List.append_assoc, List.cons_append]

theorem items?_itemTokens (items : List (List Char)) (filled : items ≠ []) :
    items? (itemTokens items ++ [.closing]) = some (items.map String.ofList) := by
  induction items with
  | nil => exact absurd rfl filled
  | cons item others ih =>
    cases others with
    | nil => by_cases empty : item = [] <;> simp [itemTokens, ended, empty, items?]
    | cons next others =>
      have later := ih (List.cons_ne_nil _ _)
      rw [itemTokens_cons_cons, List.append_assoc, List.cons_append]
      by_cases empty : item = [] <;> simp [ended, empty, items?, later]

/-! ### Pieces -/

/-- No comma of these tokens stands outside of a list. -/
def Uncut : Bool → List Token → Prop
  | _, [] => True
  | inside, token :: rest => (token = .comma → inside = true) ∧ Uncut (isInside inside token) rest

/-- The tokens of one term, with the lists closed that are opened. -/
def IsPiece (tokens : List Token) : Prop :=
  Uncut false tokens ∧ tokens.foldl isInside false = false

theorem uncut_append {first second : List Token} {inside : Bool} (before : Uncut inside first)
    (after : Uncut (first.foldl isInside inside) second) : Uncut inside (first ++ second) := by
  induction first generalizing inside with
  | nil => exact after
  | cons token rest ih => exact ⟨before.1, ih before.2 after⟩

theorem inside_ended (inside : Bool) (word : List Char) : (ended word).foldl isInside inside = inside := by
  by_cases empty : word = [] <;> simp [ended, empty, isInside]

theorem uncut_ended (inside : Bool) (word : List Char) : Uncut inside (ended word) := by
  by_cases empty : word = [] <;> simp [ended, empty, Uncut]

theorem uncut_itemTokens (items : List (List Char)) :
    Uncut true (itemTokens items) ∧ (itemTokens items).foldl isInside true = true := by
  -- Items have no brackets, so all of their commas stay inside of the list.
  induction items with
  | nil => exact ⟨trivial, rfl⟩
  | cons item others ih =>
    cases others with
    | nil => simpa [itemTokens] using And.intro (uncut_ended true item) (inside_ended true item)
    | cons next others =>
      rw [itemTokens_cons_cons, List.foldl_append, inside_ended]
      refine ⟨uncut_append (uncut_ended true item) ?_, ih.2⟩
      rw [inside_ended]
      exact ⟨fun _ => rfl, ih.1⟩

theorem isPiece_list (key : String) (operator : String) (items : List (List Char)) :
    IsPiece (.word key :: .word operator :: .opening :: (itemTokens items ++ [.closing])) := by
  obtain ⟨uncut, inside⟩ := uncut_itemTokens items
  refine ⟨⟨nofun, nofun, nofun, uncut_append uncut ⟨nofun, trivial⟩⟩, ?_⟩
  rw [List.foldl_cons, List.foldl_cons, List.foldl_cons, List.foldl_append]
  rfl

theorem prepend_foldr (tokens piece : List Token) (others : List (List Token)) :
    tokens.foldr prepend (piece :: others) = (tokens ++ piece) :: others := by
  induction tokens with
  | nil => rfl
  | cons token rest ih => rw [List.foldr_cons, ih, prepend, List.cons_append]

theorem pieces_append {tokens : List Token} {inside : Bool} (uncut : Uncut inside tokens)
    (rest : List Token) : pieces inside (tokens ++ rest) =
      tokens.foldr prepend (pieces (tokens.foldl isInside inside) rest) := by
  induction tokens generalizing inside with
  | nil => rfl
  | cons token others ih =>
    have kept : ¬ (token = .comma ∧ inside = false) := fun ⟨comma, outside⟩ =>
      absurd (uncut.1 comma) (by simp [outside])
    rw [List.cons_append, pieces, if_neg kept, ih uncut.2]
    rfl

theorem IsPiece.pieces_eq {tokens : List Token} (piece : IsPiece tokens) :
    pieces false tokens = [tokens] := by
  have whole := pieces_append piece.1 []
  rw [List.append_nil] at whole
  rw [whole, piece.2, pieces, prepend_foldr, List.append_nil]

theorem IsPiece.pieces_append_comma {tokens : List Token} (piece : IsPiece tokens)
    (rest : List Token) :
    pieces false (tokens ++ .comma :: rest) = tokens :: pieces false rest := by
  have cut : pieces false (.comma :: rest) = [] :: pieces false rest := if_pos ⟨rfl, rfl⟩
  rw [pieces_append piece.1, piece.2, cut, prepend_foldr, List.append_nil]

theorem pieces_intercalate {parts : List (List Token)} (filled : parts ≠ [])
    (each : ∀ tokens ∈ parts, IsPiece tokens) :
    pieces false ([Token.comma].intercalate parts) = parts := by
  induction parts with
  | nil => exact absurd rfl filled
  | cons tokens others ih =>
    rw [List.forall_mem_cons] at each
    cases others with
    | nil => simpa using each.1.pieces_eq
    | cons next others =>
      have later := ih (List.cons_ne_nil _ _) each.2
      rw [List.intercalate_cons_cons, List.append_assoc, List.singleton_append,
        each.1.pieces_append_comma, later]

/-! ### Terms -/

/-- Nothing more, or another term. -/
def IsRest (rest : List Char) : Prop := rest = [] ∨ ∃ more, rest = ',' :: more

theorem IsRest.ends (goes : IsRest rest) : Ends rest := by
  rcases goes with rfl | ⟨more, rfl⟩
  · exact fun _ impossible => nomatch impossible
  · exact ends_cons (by decide) more

theorem head?_append_rest (plain : ∀ c ∈ xs, IsPlain c) (goes : IsRest rest) :
    (xs ++ rest).head? ≠ some '=' := by
  cases xs with
  | nil => rcases goes with rfl | ⟨more, rfl⟩ <;> simp
  | cons c tail =>
    rintro same
    obtain rfl := Option.some.inj same
    cases (plain _ List.mem_cons_self).2

/-- The text is what one prints of a term, wherever it stands in a query. -/
def Prints (text : String) (term : Term) : Prop :=
  ∃ tokens, (∀ rest, IsRest rest → scan [] (text.toList ++ rest) = tokens ++ scan [] rest) ∧
    IsPiece tokens ∧ term? tokens = some term

theorem scan_joined {texts : List String} {terms : List Term} (printed : List.Forall₂ Prints texts terms) :
    ∃ parts, scan [] (joinWith [','] (texts.map String.toList)) = [Token.comma].intercalate parts ∧
      (∀ tokens ∈ parts, IsPiece tokens) ∧ parts.mapM term? = some terms := by
  induction printed with
  | nil => exact ⟨[], rfl, nofun, rfl⟩
  | @cons text term texts terms first printed ih =>
    obtain ⟨tokens, scanned, piece, read⟩ := first
    obtain ⟨parts, later, each, readAll⟩ := ih
    refine ⟨tokens :: parts, ?_, List.forall_mem_cons.mpr ⟨piece, each⟩, by simp [read, readAll]⟩
    -- A comma is printed between two terms, and none behind the last.
    cases printed with
    | nil =>
      have none : parts = [] := by
        cases parts with
        | nil => rfl
        | cons tokens others => simp [Option.bind_eq_some_iff] at readAll
      have alone := scanned [] (.inl rfl)
      rw [List.append_nil] at alone
      simpa [joinWith, none, scan, ended] using alone
    | cons next printed =>
      cases parts with
      | nil => cases readAll
      | cons second others =>
        rw [List.map_cons, List.map_cons, joinWith_cons_cons, List.append_assoc,
          List.singleton_append, scanned _ (.inr ⟨_, rfl⟩), scan_comma, List.intercalate_cons_cons,
          ← later, List.map_cons, List.append_assoc, List.singleton_append]

theorem terms?_join {texts : List String} {terms : List Term}
    (printed : List.Forall₂ Prints texts terms) : terms? (Text.join "," texts) = some terms := by
  obtain ⟨parts, scanned, each, read⟩ := scan_joined printed
  have whole : scan [] (Text.join "," texts).toList = [Token.comma].intercalate parts := by
    rw [Text.join, String.toList_ofList]
    exact scanned
  rw [terms?, whole]
  by_cases none : parts = []
  · subst none
    exact read
  -- A term has tokens, so what is joined is not empty.
  obtain ⟨tokens, others, rfl⟩ := List.exists_cons_of_ne_nil none
  have first : tokens ≠ [] := by
    rintro rfl
    cases read
  have more : [Token.comma].intercalate (tokens :: others) ≠ [] := by
    cases others <;> simp [first]
  rw [if_neg more, pieces_intercalate none each, read]

end ClusterBackup.Cluster.Query
