/-! # Commands of the shell language

A script is a tree. Its leaves are simple commands; the nodes say in which order the parts run and
what depends on the success of what. A word is a sequence of parts: text, and places where a value
is put. A part knows whether it stands between quotes, because a quoted value is neither cut into
fields nor taken for a pattern. Line numbers are those that messages show. -/

namespace HostProbe.Posix

inductive OpenMode where
  | read
  | write
  | force
  | append
  | readWrite
  deriving DecidableEq, Repr, Inhabited

mutual

inductive Part where
  | text (s : List Char) (quoted : Bool)
  | parameter (name : List Char) (use : ParameterUse) (quoted : Bool)
  | output (body : Command) (quoted : Bool)
  | arithmetic (expression : List Part) (quoted : Bool)

inductive ParameterUse where
  | plain
  | length
  | malformed
  | default (orEmpty : Bool) (word : List Part)
  | assign (orEmpty : Bool) (word : List Part)
  | alternative (orEmpty : Bool) (word : List Part)
  | require (orEmpty : Bool) (word : List Part)
  | trim (atEnd longest : Bool) (pattern : List Part)

inductive Redirect where
  | file (channel : Nat) (mode : OpenMode) (path : List Part)
  | copy (channel : Nat) (source : List Part)
  | document (channel : Nat) (number : Nat)

inductive Command where
  | nothing
  | simple (line : Nat) (assignments : List (List Char × List Part)) (words : List (List Part))
      (redirects : List Redirect)
  | sequence (a b : Command)
  | both (a b : Command)
  | either (a b : Command)
  | pipe (parts : List Command)
  | negated (a : Command)
  | background (line : Nat) (a : Command) (redirects : List Redirect)
  | subshell (line : Nat) (a : Command) (redirects : List Redirect)
  | redirected (line : Nat) (a : Command) (redirects : List Redirect)
  | choice (condition yes no : Command)
  | loop (whileFails : Bool) (condition body : Command)
  | forEach (line : Nat) (name : List Char) (words : List (List Part)) (body : Command)
  | select (line : Nat) (subject : List Part) (cases : List (List (List Part) × Command))
  | define (line : Nat) (name : List Char) (body : Command)

end

instance : Inhabited Part := ⟨.text [] false⟩
instance : Inhabited Command := ⟨.nothing⟩

abbrev Word := List Part

def isNameStart (c : Char) : Bool := c == '_' || c.isAlpha

def isNameChar (c : Char) : Bool := c == '_' || c.isAlphanum

def isSpecialName (c : Char) : Bool := "?$!#@*-".toList.contains c

def isName : List Char → Bool
  | [] => false
  | c :: s => isNameStart c && s.all isNameChar

namespace Word

def plain? : Word → Option (List Char)
  | [] => some []
  | .text s false :: w => (plain? w).map (s ++ ·)
  | _ => none

def isAllArguments : Word → Bool
  | [.parameter ['@'] .plain _] => true
  | _ => false

def assignment? (w : Word) : Option (List Char × Word) :=
  match w with
  | .text s false :: rest =>
    let name := s.takeWhile isNameChar
    match s.drop name.length with
    | '=' :: value =>
      if isName name then some (name, (if value = [] then [] else [.text value false]) ++ rest)
      else none
    | _ => none
  | _ => none

end Word

def Command.isNothing : Command → Bool
  | .nothing => true
  | _ => false

end HostProbe.Posix
