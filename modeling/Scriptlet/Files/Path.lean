/-!
# Paths

Paths as text. A path is put into a normal form before it is looked up or shown: repeated and
final slashes and components that are a single dot are dropped, and exactly two leading slashes
are kept apart from one.
-/

namespace Scriptlet.Path

def components (text : List Char) : List (List Char) :=
  text.splitOn '/'

/-- The components that lead anywhere. -/
def significant (text : List Char) : List (List Char) :=
  (components text).filter fun component => component != [] && component != ['.']

/-- The leading slashes of the normal form. -/
def root : List Char → List Char
  | '/' :: '/' :: '/' :: _ => ['/']
  | '/' :: '/' :: _ => ['/', '/']
  | '/' :: _ => ['/']
  | _ => []

/-- Whether a path starts at the root of the file system. -/
def isAbsolute (path : List Char) : Bool :=
  path.head? == some '/'

def normalize (path : String) : String :=
  let letters := path.toList
  match root letters ++ List.intercalate ['/'] (significant letters) with
  | [] => "."
  | normal => String.ofList normal

end Scriptlet.Path
