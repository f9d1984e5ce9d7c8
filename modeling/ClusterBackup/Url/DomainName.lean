import ClusterBackup.Text.Composition
import ClusterBackup.Text.Direction
import ClusterBackup.Text.Joining
import ClusterBackup.Url.NameMapping
import ClusterBackup.Url.Punycode

/-! International domain names: their characters are mapped and composed, each label is checked,
and labels beyond ASCII are encoded. -/

set_option autoImplicit false

namespace ClusterBackup.Url

open Text

def isAscii (c : Char) : Bool := c.toNat < 128

def nonJoiner : Char := '\u200C'

def joiner : Char := '\u200D'

/-- The class of marks that end a syllable without its vowel. -/
def vowelKiller : Nat := 9

/-! ### Labels -/

/-- Whether joiners stand only where they change how their neighbours look. The first list is
what comes before, in reverse order. -/
def joinersFit : List Char → List Char → Bool
  | _, [] => true
  | before, c :: rest =>
    let killed := before.head?.any (markClass · == vowelKiller)
    let fits :=
      if c == joiner then killed
      else if c == nonJoiner then
        killed || ((before.dropWhile isPassedOver).head?.any joinsNext
          && (rest.dropWhile isPassedOver).head?.any joinsPrevious)
      else true
    fits && joinersFit (c :: before) rest

/-- A label's characters stand for themselves in names, and the first is no mark. -/
def isLabel (cs : List Char) : Bool :=
  ! cs.head?.any isMark && joinersFit [] cs && cs.all fun c => inName? c == some [c]

def runsRightToLeft (cs : List Char) : Bool :=
  cs.any fun c => directionOf c == .rightToLeft || directionOf c == .arabicNumber

/-- In a name with any writing from right to left, a label keeps to one direction. -/
def keepsDirection (cs : List Char) : Bool :=
  let directions := cs.map directionOf
  let last := (directions.reverse.dropWhile (· == .nonspacing)).head?
  match directions.head? with
  | none => true
  | some .rightToLeft =>
    ! directions.contains .leftToRight
      && (last == some .rightToLeft || last == some .europeanNumber || last == some .arabicNumber)
      && ! (directions.contains .europeanNumber && directions.contains .arabicNumber)
  | some .leftToRight =>
    ! directions.contains .rightToLeft && ! directions.contains .arabicNumber
      && (last == some .leftToRight || last == some .europeanNumber)
  | some _ => false

def labelOf? (cs : List Char) : Option (List Char) :=
  match cs with
  | 'x' :: 'n' :: '-' :: '-' :: code => do
    guard (code.all isAscii)
    let label ← Punycode.decode? code
    guard (label.any (! isAscii ·) && composed label = label && isLabel label)
    return label
  | cs => if cs.all isAscii || isLabel cs then some cs else none

def labelText (cs : List Char) : List Char :=
  if cs.all isAscii then cs else ['x', 'n', '-', '-'] ++ Punycode.encode cs

/-! ### Names -/

def domainName? (cs : List Char) : Option (List Char) := do
  let mapped ← cs.mapM inName?
  let labels ← (splitAt '.' (composed mapped.flatten)).mapM labelOf?
  guard (! labels.any runsRightToLeft || labels.all keepsDirection)
  return joinWith ['.'] (labels.map labelText)

end ClusterBackup.Url
