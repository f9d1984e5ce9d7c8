import ClusterBackup.Url.Host

/-! URLs: reading with the corrections that web browsers make, and writing. -/

set_option autoImplicit false

namespace ClusterBackup

open Number Text

structure Url where
  scheme : String
  username : List Char := []
  password : List Char := []
  host : Option (List Char) := none
  port : Option Nat := none
  path : List Char
  query : Option (List Char) := none
  fragment : Option (List Char) := none
  deriving DecidableEq, Repr

namespace Url

def defaultPort : String → Option Nat
  | "http" | "ws" => some 80
  | "https" | "wss" => some 443
  | "ftp" => some 21
  | _ => none

def isFile (scheme : String) : Bool := scheme == "file"

/-- Well-known schemes, in which a backslash is a slash and there is always a path. -/
def isSpecial (scheme : String) : Bool := (defaultPort scheme).isSome || isFile scheme

def isSlash (special : Bool) (c : Char) : Bool := c == '/' || (special && c == '\\')

def endsAuthority (special : Bool) (c : Char) : Bool := isSlash special c || c == '?' || c == '#'

structure UserInfo where
  username : List Char
  password : List Char

/-- Name and password before the last at-sign of an authority, and what follows. -/
def userInfo (special : Bool) (cs : List Char) : Except Fault (Option UserInfo × List Char) :=
  let authority := cs.takeWhile (! endsAuthority special ·)
  if ! authority.contains '@' then .ok (none, cs)
  else
    let after := (authority.reverse.takeWhile (· ≠ '@')).reverse
    let info := authority.take (authority.length - after.length - 1)
    let rest := cs.drop (info.length + 1)
    if info.isEmpty then
      if rest.head?.any (endsAuthority special) then .error .emptyHost else .ok (none, rest)
    else
      let name := info.takeWhile (· ≠ ':')
      let password := (info.dropWhile (· ≠ ':')).drop 1
      .ok (some ⟨escape inUserInfo name, escape inUserInfo password⟩, rest)

/-- The characters of a host. A colon ends it, but not in brackets. -/
def hostChars (special : Bool) : Bool → List Char → List Char × List Char
  | _, [] => ([], [])
  | inside, c :: rest =>
    if (c == ':' && ! inside) || endsAuthority special c then ([], c :: rest)
    else
      let inside := if c == '[' then true else if c == ']' then false else inside
      let (host, rest) := hostChars special inside rest
      (c :: host, rest)

/-- A port, if it is not the usual one. -/
def portOf (scheme : String) (cs : List Char) : Except Fault (Option Nat × List Char) :=
  let digits := cs.takeWhile isDigit
  let rest := cs.dropWhile isDigit
  if 65535 < valueOf digits then .error .badPort
  else if rest.head?.any fun c => ! endsAuthority true c then .error .badPort
  else if digits.isEmpty ∨ some (valueOf digits) = defaultPort scheme then .ok (none, rest)
  else .ok (some (valueOf digits), rest)

def isDot (segment : List Char) : Bool :=
  segment == ['.'] || segment.map Char.toLower == ['%', '2', 'e']

def isDoubleDot (segment : List Char) : Bool :=
  let s := segment.map Char.toLower
  s == ['.', '.'] || s == ['.', '%', '2', 'e'] || s == ['%', '2', 'e', '.']
    || s == ['%', '2', 'e', '%', '2', 'e']

/-- A letter with a colon or a bar: the name of a disk drive. -/
def isDrive : List Char → Bool
  | [letter, mark] => letter.isAlpha && (mark == ':' || mark == '|')
  | _ => false

/-- A drive that a backslash may follow. -/
def startsWithDrive (segment : List Char) : Bool :=
  isDrive (segment.take 2) && (segment.length = 2 || segment[2]? = some '\\')

/-- A path that ends with a slash, without its last segment, unless that is a drive. -/
def shorten (path : List Char) : List Char :=
  let last := path.dropLast.reverse.takeWhile (· ≠ '/')
  if path.dropLast.contains '/' && ! startsWithDrive last.reverse then
    (path.dropLast.reverse.drop last.length).reverse
  else path

/-- A path as far as it is read. A file on a drive is on no host. -/
structure Progress where
  path : List Char
  onHost : Bool := true

/-- One more segment, escaped, and whether a slash follows it. -/
def Progress.add (file : Bool) (s : Progress) (segment : List Char) (slash : Bool) : Progress :=
  let ending := if slash then ['/'] else []
  if isDoubleDot segment then { s with path := shorten s.path }
  else if isDot segment then
    { s with path := if s.path.getLast? = some '/' then s.path else s.path ++ ['/'] }
  else if file && s.path == ['/'] && isDrive segment then
    { path := '/' :: segment.take 1 ++ [':'] ++ ending, onHost := false }
  else { s with path := s.path ++ segment ++ ending }

def Progress.addAll (file : Bool) : Progress → List (List Char) → Progress
  | s, [] => s
  | s, [segment] => s.add file segment false
  | s, segment :: rest => addAll file (s.add file segment true) rest

def splitSlashes (special : Bool) (cs : List Char) : List (List Char) :=
  splitAt '/' (cs.map fun c => if isSlash special c then '/' else c)

def readPath (scheme : String) (start cs : List Char) : Progress :=
  Progress.addAll (isFile scheme) { path := start }
    ((splitSlashes (isSpecial scheme) cs).map (escape inPath))

def beforeQuery (cs : List Char) : List Char × List Char :=
  (cs.takeWhile fun c => c != '?' && c != '#', cs.dropWhile fun c => c != '?' && c != '#')

def withQuery (url : Url) (cs : List Char) : Url :=
  let (query, rest) := match cs with
    | '?' :: rest => (some (rest.takeWhile (· ≠ '#')), rest.dropWhile (· ≠ '#'))
    | _ => (none, cs)
  let fragment := match rest with
    | '#' :: rest => some (escape inFragment rest)
    | _ => none
  let escaped := if isSpecial url.scheme then inSpecialQuery else inQuery
  { url with query := query.map (escape escaped), fragment }

def afterSlash : List Char → List Char
  | c :: rest => if isSlash true c then rest else c :: rest
  | [] => []

def withAuthority (scheme : String) (cs : List Char) : Except Fault Url := do
  let special := isSpecial scheme
  let (info, cs) ← userInfo special cs
  let (host, cs) := hostChars special false cs
  if special && host.isEmpty then throw .emptyHost
  let host ← if special then specialHost host else otherHost host
  if host.isEmpty && (cs.head? == some ':' || info.any fun i => ! (i.username.isEmpty && i.password.isEmpty)) then
    throw .emptyHost
  let (port, cs) ← match cs with
    | ':' :: rest => portOf scheme rest
    | _ => .ok (none, cs)
  let (path, cs) := beforeQuery cs
  let path :=
    if special then (readPath scheme ['/'] (afterSlash path)).path
    else if path.isEmpty then [] else (readPath scheme [] path).path
  let info := info.getD ⟨[], []⟩
  return withQuery
    { scheme, username := info.username, password := info.password,
      host := if host.isEmpty then some [] else some host, port, path } cs

/-- A file on a host or on none, with the start of its path. The path has no empty segments in
front. -/
def onFile (host : List Char) (start cs : List Char) : Url :=
  let (path, cs) := beforeQuery cs
  let s := readPath "file" start path
  let host := if s.onHost then host else []
  withQuery { scheme := "file", host := some host, path := '/' :: s.path.dropWhile (· = '/') } cs

/-- What follows the two slashes of a file: a host, if it is not a drive. -/
def fileOnHost (cs : List Char) : Except Fault Url := do
  let host := cs.takeWhile (! endsAuthority true ·)
  let rest := cs.dropWhile (! endsAuthority true ·)
  if isDrive host then return onFile [] ['/'] cs
  let host ← if host.isEmpty then .ok [] else specialHost host
  if host.isEmpty || host == "localhost".toList then return onFile [] ['/'] rest
  return onFile host ['/'] (afterSlash rest)

def ofFile (cs : List Char) : Except Fault Url :=
  match cs with
  | a :: b :: rest =>
    if isSlash true a && isSlash true b then fileOnHost rest
    else if isSlash true a then .ok (onFile [] [] cs) else .ok (onFile [] ['/'] cs)
  | _ => .ok (onFile [] (if cs.head?.any (isSlash true) then [] else ['/']) cs)

def ofOther (scheme : String) (cs : List Char) : Except Fault Url :=
  match cs with
  | '/' :: '/' :: rest => withAuthority scheme rest
  | '/' :: rest =>
    let (path, cs) := beforeQuery rest
    let path := (readPath scheme ['/'] path).path
    let path := if ['/', '/'].isPrefixOf path then ['/', '.'] ++ path else path
    .ok (withQuery { scheme, path } cs)
  | cs =>
    let (path, cs) := beforeQuery cs
    .ok (withQuery { scheme, path := escape isControl path } cs)

def schemeOf (cs : List Char) : Option (String × List Char) :=
  let name := cs.takeWhile fun c => c.isAlphanum || c == '+' || c == '-' || c == '.'
  match name, cs.dropWhile fun c => c.isAlphanum || c == '+' || c == '-' || c == '.' with
  | first :: _, ':' :: rest =>
    if first.isAlpha then some (String.ofList (name.map Char.toLower), rest) else none
  | _, _ => none

/-- Blanks and control characters around a URL are dropped, tabs and line ends everywhere. -/
def parse (s : String) : Except Fault Url :=
  let cs := (trimWhile (fun c => c.toNat ≤ 0x20) s.toList).filter fun c =>
    c != '\t' && c != '\n' && c != '\r'
  match schemeOf cs with
  | none => .error .relative
  | some (scheme, rest) =>
    if isFile scheme then ofFile rest
    else if isSpecial scheme then withAuthority scheme (rest.dropWhile (isSlash true))
    else ofOther scheme rest

/-- Whether there is a host that can be given a name and a password. -/
def takesCredentials (u : Url) : Bool := u.host.any (! ·.isEmpty) && ! isFile u.scheme

def withUsername (u : Url) (name : String) : Option Url :=
  if u.takesCredentials then some { u with username := escape inUserInfo name.toList } else none

def withPassword (u : Url) (password : String) : Option Url :=
  if u.takesCredentials then some { u with password := escape inUserInfo password.toList } else none

def text (u : Url) : String :=
  let password := if u.password.isEmpty then [] else ':' :: u.password
  let info := if u.username.isEmpty && u.password.isEmpty then [] else u.username ++ password ++ ['@']
  let authority := match u.host with
    | some host => ['/', '/'] ++ info ++ host ++ (u.port.map fun n => ':' :: digitsOf n).getD []
    | none => []
  String.ofList (u.scheme.toList ++ [':'] ++ authority ++ u.path
    ++ (u.query.map ('?' :: ·)).getD [] ++ (u.fragment.map ('#' :: ·)).getD [])

end Url

end ClusterBackup
