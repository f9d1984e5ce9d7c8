import ClusterBackup.Proofs.Selector.Matching
import ClusterBackup.Proofs.Text.Pieces

/-! The label selectors that list calls take, as a cluster reads them.

A query has its terms between commas: `k`, `!k`, `k=v`, `k==v`, `k!=v`, `k in (a,b)` and
`k notin (a,b)`, with blanks wherever a sign or a word ends. The words that name an operator are keys
and values as well, where one is due. What stands between two commas of a list is an item of it, the
empty value if that is nothing. Comparisons of numbers are not read. -/

set_option autoImplicit false

namespace ClusterBackup.Cluster

open Text

namespace Query

/-! ### Labels -/

/-- What stays inside of a label name. -/
def isNameChar (c : Char) : Bool := c.isAlphanum || c = '-' || c = '_' || c = '.'

def isName (cs : List Char) : Bool :=
  cs.length ≤ 63 && cs.all isNameChar && cs.head?.any Char.isAlphanum && cs.getLast?.any Char.isAlphanum

def isDomainEnd (c : Char) : Bool := c.isLower || c.isDigit

def isDomain (cs : List Char) : Bool :=
  cs.length ≤ 253 && cs.all (fun c => isDomainEnd c || c = '-' || c = '.')
    && (splitAt '.' cs).all fun part => part.head?.any isDomainEnd && part.getLast?.any isDomainEnd

def isKey (key : String) : Bool :=
  match splitAt '/' key.toList with
  | [name] => isName name
  | [domain, name] => isDomain domain && isName name
  | _ => false

def isValue (value : String) : Bool := value = "" || isName value.toList

/-! ### Tokens -/

inductive Token where
  | word (text : String)
  | comma
  | opening
  | closing
  | negation
  | equals
  | doubleEquals
  | unequal
  | comparison
  deriving DecidableEq, Repr

def isSpace (c : Char) : Bool := c = ' ' || c = '\t' || c = '\r' || c = '\n'

def sign? : Char → Option Token
  | ',' => some .comma
  | '(' => some .opening
  | ')' => some .closing
  | '!' => some .negation
  | '=' => some .equals
  | '<' | '>' => some .comparison
  | _ => none

def ended (word : List Char) : List Token := if word = [] then [] else [.word (String.ofList word)]

def scan (word : List Char) : List Char → List Token
  | [] => ended word
  | '=' :: '=' :: rest => ended word ++ .doubleEquals :: scan [] rest
  | '!' :: '=' :: rest => ended word ++ .unequal :: scan [] rest
  | c :: rest =>
    if isSpace c then ended word ++ scan [] rest
    else match sign? c with
      | some token => ended word ++ token :: scan [] rest
      | none => scan (word ++ [c]) rest

def prepend (token : Token) : List (List Token) → List (List Token)
  | [] => [[token]]
  | piece :: pieces => (token :: piece) :: pieces

/-- Whether what comes after a token is inside of a list. -/
def isInside (inside : Bool) : Token → Bool
  | .opening => true
  | .closing => false
  | _ => inside

def pieces (inside : Bool) : List Token → List (List Token)
  | [] => [[]]
  | token :: rest =>
    if token = .comma ∧ inside = false then [] :: pieces false rest
    else prepend token (pieces (isInside inside token) rest)

/-! ### Terms -/

structure Term where
  key : String
  operator : Operator
  values : List String := []
  deriving DecidableEq, Repr

def items? : List Token → Option (List String)
  | [.closing] => some [""]
  | [.word value, .closing] => some [value]
  | .comma :: rest => (items? rest).map ("" :: ·)
  | .word value :: .comma :: rest => (items? rest).map (value :: ·)
  | _ => none

def demand? : List Token → Option (Operator × List String)
  | [] => some (.present, [])
  | [.equals] | [.doubleEquals] => some (.oneOf, [""])
  | [.equals, .word value] | [.doubleEquals, .word value] => some (.oneOf, [value])
  | [.unequal] => some (.noneOf, [""])
  | [.unequal, .word value] => some (.noneOf, [value])
  | .word "in" :: .opening :: rest => (items? rest).map fun values => (.oneOf, values)
  | .word "notin" :: .opening :: rest => (items? rest).map fun values => (.noneOf, values)
  | _ => none

/-- A term of labels that there can be. -/
def Term.lawful? (term : Term) : Option Term :=
  if isKey term.key && term.values.all isValue then some term else none

def term? : List Token → Option Term
  | [.negation, .word key] => Term.lawful? { key, operator := .absent }
  | .word key :: rest => (demand? rest).bind fun (operator, values) => Term.lawful? { key, operator, values }
  | _ => none

def terms? (text : String) : Option (List Term) :=
  let tokens := scan [] text.toList
  if tokens = [] then some [] else (pieces false tokens).mapM term?

def Term.Asks (term : Term) (labels : Dictionary) : Prop :=
  term.operator.Asks term.values (labels.get? term.key)

/-- The text is a query, and the labels are as all its terms ask. -/
def Selects (text : String) (labels : Dictionary) : Prop :=
  ∃ terms, terms? text = some terms ∧ ∀ term ∈ terms, term.Asks labels

example : terms? "app=db, env in (,stage),in notin (in),team,!apps.example.com/legacy" = some [
    { key := "app", operator := .oneOf, values := ["db"] },
    { key := "env", operator := .oneOf, values := ["", "stage"] },
    { key := "in", operator := .noneOf, values := ["in"] },
    { key := "team", operator := .present },
    { key := "apps.example.com/legacy", operator := .absent }] := by
  decide +kernel

end Query

end ClusterBackup.Cluster
