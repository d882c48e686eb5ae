import LayeredConfig.Text.Graphic

namespace LayeredConfig.Text

def codePointEscape (c : Char) : List Char :=
  "\\u\x7b".toList ++ Nat.toDigits 16 c.toNat ++ ['\x7d']

def escapeChar (c : Char) : List Char :=
  if c = '\x00' then ['\\', '0']
  else if c = '\t' then ['\\', 't']
  else if c = '\r' then ['\\', 'r']
  else if c = '\n' then ['\\', 'n']
  else if c = '\x22' ∨ c = '\\' then ['\\', c]
  else if isGraphic c then [c]
  else codePointEscape c

/-- At the start a combining character would fall on the opening quote, so it is escaped. -/
def escapeFirst (c : Char) : List Char :=
  if isCombining c then codePointEscape c else escapeChar c

def quotedChars : List Char → List Char
  | [] => []
  | c :: cs => escapeFirst c ++ cs.flatMap escapeChar

def quoted (s : String) : String :=
  "\"" ++ String.ofList (quotedChars s.toList) ++ "\""

end LayeredConfig.Text
