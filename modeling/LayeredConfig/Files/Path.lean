import LayeredConfig.Text.Blank

namespace LayeredConfig.Files

def isIdle (piece : List Char) : Bool := piece.isEmpty || piece == ['.']

/-- The root or the starting dot of a path, and the rest of it. -/
def takeAnchor : List Char → List Char × List Char
  | '/' :: cs => (['/'], cs)
  | ['.'] => (['.'], [])
  | '.' :: '/' :: cs => (['.'], '/' :: cs)
  | cs => ([], cs)

def dropIdle (pieces : List (List Char)) : List (List Char) :=
  (pieces.reverse.dropWhile isIdle).reverse

/-- The path without its last step; none for the root and for the empty path. -/
def parent? (path : String) : Option String :=
  let (anchor, body) := takeAnchor path.toList
  match dropIdle (Text.pieces '/' body) with
  | [] => if anchor = ['.'] then some "" else none
  | steps => some (String.ofList (anchor ++ ['/'].intercalate (dropIdle steps.dropLast)))

/-- What stands after the last dot of the last piece, unless that dot starts it. -/
def extension? (path : String) : Option String :=
  match ((Text.pieces '/' path.toList).getLastD []).reverse.span (· ≠ '.') with
  | (after, '.' :: _ :: _) => some (String.ofList after.reverse)
  | _ => none

end LayeredConfig.Files
