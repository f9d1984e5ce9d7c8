import ClusterBackup.Text.Scan
import ClusterBackup.Url.Escape

/-! Targets of requests: a path, and the query that may follow it. They are put together as text,
in which a question mark ends the path and a number sign ends the target, wherever they come
from. -/

set_option autoImplicit false

namespace ClusterBackup.Api

structure Target where
  path : String
  query : String
  deriving DecidableEq, Repr

namespace Target

/-- Text as a form writes it, with a plus sign for a blank. -/
def formText (s : String) : String :=
  Text.replaceChar ' ' '+' (Text.onChars (Url.escape fun c => c != ' ' && Url.inForm c) s)

def parameterText (parameter : String × String) : String :=
  formText parameter.1 ++ "=" ++ formText parameter.2

/-- A path with room for parameters. Every parameter follows a sign of its own. -/
def text (path : String) (parameters : List (String × String)) : String :=
  Text.join "&" ((path ++ "?") :: parameters.map parameterText)

def standsInPath (c : Char) : Bool :=
  0x20 < c.toNat && ! ['<', '>', '\u0060'].contains c

def standsInQuery (c : Char) : Bool :=
  0x20 < c.toNat && ! ['"', '<', '>'].contains c

/-- The target that a text names, unless it has a character that no target has. -/
def parse? (s : String) : Option Target :=
  let cs := s.toList.takeWhile (· ≠ '#')
  let path := cs.takeWhile (· ≠ '?')
  let query := cs.drop (path.length + 1)
  if path.all standsInPath && query.all standsInQuery then
    some ⟨String.ofList path, String.ofList query⟩
  else none

/-- The parameters of the query that are not empty. -/
def queryText (t : Target) : String :=
  Text.join "&" ((Text.splitChar '&' t.query).filter (! ·.isEmpty))

end Target

end ClusterBackup.Api
