import AnchoredArrays.Lookup.Path

/-!
Locating a program by the name it was started under: an absolute path is taken as it is, a bare
name is looked up in the search path, and any other path is read from the working directory.

* `locate`: the path of the program, if one is found.
-/

namespace AnchoredArrays.Lookup

/-- The path of the program started as `name`. Only a bare name is looked for among the files. -/
def locate (isFile : String → Bool) (name : String) (search workingDirectory : Option String) :
    Option String :=
  if name.toList = [] then
    none
  else if isAbsolute name then
    some name
  else if hasSlash name then
    workingDirectory.map (join · name)
  else
    search.bind fun path => ((searchEntries path).map (join · name)).find? isFile

end AnchoredArrays.Lookup
