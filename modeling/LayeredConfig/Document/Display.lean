import LayeredConfig.Document.Basic
import LayeredConfig.Text.Quoted

namespace LayeredConfig.Document

def joinWith (separator : String) (parts : List String) : String := separator.intercalate parts

mutual

def display : Document → String
  | null => "Null"
  | bool b => "Bool(" ++ toString b ++ ")"
  | number n => "Number(" ++ n.text ++ ")"
  | string s => "String(" ++ Text.quoted s ++ ")"
  | sequence items => "Sequence [" ++ joinWith ", " (displayItems items) ++ "]"
  | mapping entries => "Mapping \x7b" ++ joinWith ", " (displayEntries entries) ++ "\x7d"
  | tagged tag content =>
    "TaggedValue \x7b tag: !" ++ tag ++ ", value: " ++ display content ++ " \x7d"

def displayItems : List Document → List String
  | [] => []
  | d :: ds => display d :: displayItems ds

/-- Keys that are scalars other than null stand bare. -/
def displayEntries : List (Document × Document) → List String
  | [] => []
  | (k, v) :: rest =>
    let key := match k with
      | bool b => toString b
      | number n => n.text
      | string s => Text.quoted s
      | other => display other
    (key ++ ": " ++ display v) :: displayEntries rest

end

end LayeredConfig.Document
