import HostProbe.Posix.Bytes

/-! # Names in messages

A name in a message stands between quotes where it could be misread: in the words of the shell where
it names a file, and with escapes where it is any other argument. -/

namespace HostProbe.Posix

def isSeen (c : Char) : Bool := 32 ≤ c.toNat && c.toNat < 127

def unseenEscape (c : Char) : List Char :=
  match c with
  | '\x07' => ['\\', 'a']
  | '\x08' => ['\\', 'b']
  | '\t' => ['\\', 't']
  | '\n' => ['\\', 'n']
  | '\x0b' => ['\\', 'v']
  | '\x0c' => ['\\', 'f']
  | '\r' => ['\\', 'r']
  | c =>
    let ds := Nat.toDigits 8 c.toNat
    '\\' :: (List.replicate (3 - ds.length) '0' ++ ds)

def quotedArgument (s : List Char) : List Char :=
  '\x27' :: (s.flatMap fun c =>
    if c = '\\' ∨ c = '\x27' then ['\\', c]
    else if isSeen c then [c]
    else unseenEscape c) ++ ['\x27']

def shownArgument (arg : String) : String := String.ofList (quotedArgument arg.toList)

def needsQuotes (s : List Char) : Bool :=
  let special := " !\"$&\x27()*;<=>?[\\^\x60|".toList
  s.isEmpty || s = ['\x7b'] || s = ['\x7d'] || s.head? = some '#' || s.head? = some '~' ||
    s.any fun c => special.contains c || !isSeen c

def shellParts (s : List Char) : List Char :=
  let step (done : List Char × Bool) (c : Char) : List Char × Bool :=
    let (out, escaped) := done
    if isSeen c then
      let out := if escaped then out ++ ['\x27', '\x27'] else out
      (out ++ (if c = '\x27' then ['\x27', '\\', '\x27', '\x27'] else [c]), false)
    else
      let out := if escaped then out else out ++ ['\x27', '$', '\x27']
      (out ++ unseenEscape c, true)
  (s.foldl step ([], false)).1

def shellQuoted (s : List Char) : List Char :=
  let isMild (c : Char) : Bool := c.isAlphanum || " %+,-./:]_\x27".toList.contains c
  let mild := match s with
    | c :: cs => (isMild c || c == '#' || c == '~') && cs.all isMild
    | [] => true
  if s.contains '\x27' && mild then '"' :: s ++ ['"']
  else '\x27' :: shellParts s ++ ['\x27']

def quotedPath (path : String) : String := String.ofList (shellQuoted path.toList)

def shownPath (path : String) : String :=
  if needsQuotes path.toList || path.toList.contains ':' then quotedPath path else path

end HostProbe.Posix
