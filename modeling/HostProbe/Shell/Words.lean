/-! # Words of a command line

A command line is cut into words at blanks outside quotes. A backslash or quotes take the special
meaning from characters; a `#` where a word would start begins a comment. A line that ends inside
quotes or after a backslash has no words. -/

namespace HostProbe.Shell

inductive Place where
  | between
  | comment
  | plain
  | escaped
  | single
  | double
  | doubleEscaped
  deriving DecidableEq, Repr

def isWordGap (c : Char) : Bool := c == ' ' || c == '\t' || c == '\n'

def isDoubleEscapable (c : Char) : Bool := c == '$' || c == '\x60' || c == '"' || c == '\\'

def wordsFrom : Place → List Char → List Char → Option (List (List Char))
  | .between, _, [] => some []
  | .comment, _, [] => some []
  | .plain, word, [] => some [word]
  | .escaped, _, [] => none
  | .single, _, [] => none
  | .double, _, [] => none
  | .doubleEscaped, _, [] => none
  | .between, word, c :: s =>
    if isWordGap c then wordsFrom .between word s
    else if c = '#' then wordsFrom .comment word s
    else if c = '"' then wordsFrom .double [] s
    else if c = '\x27' then wordsFrom .single [] s
    else if c = '\\' then wordsFrom .escaped [] s
    else wordsFrom .plain [c] s
  | .comment, word, c :: s =>
    if c = '\n' then wordsFrom .between word s else wordsFrom .comment word s
  | .plain, word, c :: s =>
    if isWordGap c then (wordsFrom .between [] s).map (word :: ·)
    else if c = '"' then wordsFrom .double word s
    else if c = '\x27' then wordsFrom .single word s
    else if c = '\\' then wordsFrom .escaped word s
    else wordsFrom .plain (word ++ [c]) s
  | .escaped, word, c :: s =>
    if c = '\n' then wordsFrom .plain word s else wordsFrom .plain (word ++ [c]) s
  | .single, word, c :: s =>
    if c = '\x27' then wordsFrom .plain word s else wordsFrom .single (word ++ [c]) s
  | .double, word, c :: s =>
    if c = '"' then wordsFrom .plain word s
    else if c = '\\' then wordsFrom .doubleEscaped word s
    else wordsFrom .double (word ++ [c]) s
  | .doubleEscaped, word, c :: s =>
    if c = '\n' then wordsFrom .double word s
    else if isDoubleEscapable c then wordsFrom .double (word ++ [c]) s
    else wordsFrom .double (word ++ ['\\', c]) s

def split? (line : List Char) : Option (List (List Char)) := wordsFrom .between [] line

def words? (line : String) : Option (List String) :=
  (split? line.toList).map fun ws => ws.map String.ofList

end HostProbe.Shell
