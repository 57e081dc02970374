import HostProbe.Posix.Expansion

/-! # Options of a shell

Options are letters after a hyphen, which sets them, or a plus sign, which takes them back. They
stand in the arguments that a shell is started with and in those of its command `set`. -/

namespace HostProbe.Posix

structure OptionReading where
  options : List Char
  rest : List String
  clears : Bool := false
  script : Bool := false
  shown : List Char := []
  fault : Option String := none

namespace OptionReading

def put (r : OptionReading) (set : Bool) (letter : Char) : OptionReading :=
  { r with options := (if set then [letter] else []) ++ r.options.filter (· != letter) }

def listing (options : List Char) (form : Char) (all : Bool) : List Char :=
  let isOn (letter : Char) : Bool := all || options.contains letter
  let line (letter : Char) (name : String) : List Char :=
    if form = '-' then
      lineOf (name ++ String.ofList (List.replicate (16 - name.length) ' ') ++
        (if isOn letter then "on" else "off"))
    else lineOf ((if isOn letter then "set -o " else "set +o ") ++ name)
  (if form = '-' then lineOf "Current option settings" else []) ++
    ShellState.optionLetters.flatMap fun (letter, name) => line letter name

def named (r : OptionReading) (form : Char) : OptionReading :=
  match r.rest with
  | [] => { r with shown := r.shown ++ [form] }
  | name :: rest =>
    match ShellState.optionLetters.find? (·.2 == name) with
    | some (letter, _) => { r with rest }.put (form = '-') letter
    | none => { r with fault := some ("Illegal option " ++ String.ofList [form] ++ "o " ++ name) }

def letters (atStart : Bool) (form : Char) : List Char → OptionReading → OptionReading
  | [], r => r
  | c :: cs, r =>
    if c = 'c' ∧ atStart then letters atStart form cs { r with script := true }
    else if c = 'l' ∧ atStart then letters atStart form cs r
    else if c = 'o' then
      let r := r.named form
      if r.fault.isSome then r else letters atStart form cs r
    else if c ≠ '\x00' ∧ ShellState.optionLetters.any (·.1 == c) then
      letters atStart form cs (r.put (form = '-') c)
    else { r with fault := some ("Illegal option " ++ String.ofList [form, c]) }

def read (atStart : Bool) : Nat → OptionReading → OptionReading
  | 0, r => r
  | n + 1, r =>
    match r.fault, r.rest with
    | some _, _ => r
    | none, [] => r
    | none, a :: rest =>
      match a.toList with
      | ['-'] =>
        if atStart then { r with rest } else (({ r with rest }).put false 'x').put false 'v'
      | ['-', '-'] => { r with rest, clears := rest.isEmpty }
      | '-' :: cs => read atStart n (letters atStart '-' cs { r with rest })
      | '+' :: cs => read atStart n (letters atStart '+' cs { r with rest })
      | _ => r

end OptionReading

end HostProbe.Posix
