import LayeredConfig.Text.Case

namespace LayeredConfig.Schema

def normalizeKey (key : String) : String :=
  String.ofList ((key.toList.filter fun c => c ≠ '-' ∧ c ≠ '_').flatMap Text.lowerChar)

/-- The location of an entry below a parent; the root is the empty location. -/
def joinPath (parent key : String) : String :=
  if parent.isEmpty then key else parent ++ "." ++ key

def shownPath (path : String) : String := if path.isEmpty then "<root>" else path

end LayeredConfig.Schema
