import ClusterBackup.Json.Token

/-! Passing over JSON values that nobody asked for. Numbers of any size, halves of surrogate
pairs and any depth are fine there. -/

set_option autoImplicit false

namespace ClusterBackup.Json

open Number

def skipExponent (cs : List Char) : Placed (List Char) :=
  let cs := match cs with
    | '+' :: rest | '-' :: rest => rest
    | cs => cs
  if startsWithDigit cs then .ok (cs.dropWhile isDigit) else failIn .badNumber cs

def skipNumberEnd (cs : List Char) : Placed (List Char) :=
  match cs with
  | 'e' :: rest | 'E' :: rest => skipExponent rest
  | cs => .ok cs

def skipFraction (cs : List Char) : Placed (List Char) :=
  match cs with
  | '.' :: rest =>
    if startsWithDigit rest then skipNumberEnd (rest.dropWhile isDigit)
    else failIn .badNumber rest
  | cs => skipNumberEnd cs

/-- A zero in front of other digits is no number. -/
def skipNumber (cs : List Char) : Placed (List Char) :=
  let cs := match cs with
    | '-' :: rest => rest
    | cs => cs
  if ! startsWithDigit cs then failIn .badNumber cs
  else
    let rest := if cs.head? = some '0' then cs.drop 1 else cs.dropWhile isDigit
    if startsWithDigit rest then failIn .badNumber rest else skipFraction rest

mutual
/-- Passes over one value. The first number bounds the steps. -/
def skip : Nat → List Char → Placed (List Char)
  | 0, cs => failAt .endInValue cs
  | bound + 1, cs =>
    match skipBlanks cs with
    | [] => failAt .endInValue []
    | 'n' :: rest => (word .null ['u', 'l', 'l'] rest).map (·.2)
    | 't' :: rest => (word (.bool true) ['r', 'u', 'e'] rest).map (·.2)
    | 'f' :: rest => (word (.bool false) ['a', 'l', 's', 'e'] rest).map (·.2)
    | '"' :: rest => skipString rest
    | '[' :: rest =>
      match skipBlanks rest with
      | ']' :: rest => .ok rest
      | [] => failAt .endInList []
      | rest => skipElements bound rest
    | '\x7b' :: rest =>
      match skipBlanks rest with
      | '\x7d' :: rest => .ok rest
      | [] => failAt .endInObject []
      | rest => skipMembers bound rest
    | c :: rest =>
      if c = '-' ∨ isDigit c then skipNumber (c :: rest) else failIn .noValue (c :: rest)

def skipElements : Nat → List Char → Placed (List Char)
  | 0, cs => failAt .endInList cs
  | bound + 1, cs => do
    match skipBlanks (← skip bound cs) with
    | ']' :: rest => return rest
    | ',' :: rest => skipElements bound rest
    | [] => failAt .endInList []
    | rest => failIn .noListEnd rest

def skipMembers : Nat → List Char → Placed (List Char)
  | 0, cs => failAt .endInObject cs
  | bound + 1, cs => do
    let rest ← match skipBlanks cs with
      | '"' :: rest => skipString rest
      | [] => failAt .endInObject []
      | rest => failIn .keyNotText rest
    match skipBlanks (← skip bound (← colon rest)) with
    | '\x7d' :: rest => return rest
    | ',' :: rest => skipMembers bound rest
    | [] => failAt .endInObject []
    | rest => failIn .noObjectEnd rest
end

end ClusterBackup.Json
