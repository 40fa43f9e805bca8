/-!
Paths as texts: their last part, joining two of them, and the entries of a search path. A path is
absolute if it starts with a slash.

* `programName`: what follows the last slash;
* `join`: a path below another one;
* `searchEntries`: the parts of a search path between its colons.
-/

namespace AnchoredArrays.Lookup

/-- The parts of a text between the occurrences of a character; one more than there are such
occurrences, and possibly empty. -/
def fields (separator : Char) : List Char → List (List Char)
  | [] => [[]]
  | c :: rest =>
    if c = separator then
      [] :: fields separator rest
    else
      match fields separator rest with
      | [] => [[c]]
      | part :: parts => (c :: part) :: parts

/-- What follows the last slash of a path, the whole path if it has none. -/
def programName (path : String) : String :=
  String.ofList ((path.toList.reverse.takeWhile (· != '/')).reverse)

/-- Whether a path starts at the root. -/
def isAbsolute (path : String) : Bool := path.toList.head? == some '/'

/-- Whether a path has more than one part. -/
def hasSlash (path : String) : Bool := path.toList.contains '/'

/-- The path `path` as seen from `base`: an absolute path is itself, any other is put behind the
base with one slash between them, unless the base is empty or ends in one. -/
def join (base path : String) : String :=
  if isAbsolute path then path
  else if base.toList = [] ∨ base.toList.getLast? = some '/' then base ++ path
  else base ++ "/" ++ path

/-- The directories named by a search path. -/
def searchEntries (path : String) : List String :=
  (fields ':' path.toList).map String.ofList

end AnchoredArrays.Lookup
