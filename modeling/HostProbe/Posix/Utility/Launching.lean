import HostProbe.Posix.Utility.Surroundings

/-! # Utilities that run other commands

What these are told says which commands they run: in which environment, for how long, with which
arguments. Running the commands is not done here. -/

namespace HostProbe.Posix

open Effect

structure TimeLimit where
  ms : Nat
  signal : Nat
  keepsStatus : Bool
  notice : Option String

structure RunRequest where
  command : List String
  env : Option (List (String × String)) := none
  dir : Option String := none
  limit : Option TimeLimit := none

inductive LaunchPlan where
  | effect (e : Effect)
  | run (r : RunRequest)
  | each (commands : List (List String)) (shows : Bool)

namespace Invocation

variable (i : Invocation)

def envPlan : LaunchPlan :=
  go (2 * i.args.length + 2) i.env none false i.args
where
  go : Nat → List (String × String) → Option String → Bool → List String → LaunchPlan
    | 0, _, _, _, _ => .effect {}
    | n + 1, env, dir, zero, args =>
      let refused (e : Effect) : LaunchPlan := .effect { e with status := 125 }
      match args with
      | [] => finish env dir zero []
      | a :: rest => match a.toList with
        | ['-'] => go n [] dir zero rest
        | ['-', '-'] => assignments n env dir zero rest
        | '-' :: '-' :: word =>
          let name := word.takeWhile (· != '=')
          let value? := match word.drop name.length with
            | _ :: v => some (String.ofList v, rest)
            | [] => match rest with
              | v :: rest => some (v, rest)
              | [] => none
          match String.ofList name with
          | "ignore-environment" => go n [] dir zero rest
          | "null" => go n env dir true rest
          | "unset" => match value? with
            | some (v, rest) => go n (env.filter (·.1 != v)) dir zero rest
            | none => refused (i.misused 125 "option \x27--unset\x27 requires an argument")
          | "chdir" => match value? with
            | some (v, rest) => go n env (some v) zero rest
            | none => refused (i.misused 125 "option \x27--chdir\x27 requires an argument")
          | _ => refused (i.misused 125 ("unrecognized option " ++ quotedPath a))
        | '-' :: 'i' :: cs =>
          go n [] dir zero (if cs.isEmpty then rest else String.ofList ('-' :: cs) :: rest)
        | '-' :: '0' :: cs =>
          go n env dir true (if cs.isEmpty then rest else String.ofList ('-' :: cs) :: rest)
        | '-' :: c :: cs =>
          if c = 'u' ∨ c = 'C' ∨ c = 'S' then
            match (if cs.isEmpty then rest.head? else some (String.ofList cs)) with
            | none => refused (i.misused 125
                ("option requires an argument -- \x27" ++ String.singleton c ++ "\x27"))
            | some v =>
              let rest := if cs.isEmpty then rest.drop 1 else rest
              if c = 'u' then go n (env.filter (·.1 != v)) dir zero rest
              else if c = 'C' then go n env (some v) zero rest
              else go n env dir zero ((wordsIn v.toList).map String.ofList ++ rest)
          else refused (i.misused 125
            ("invalid option -- \x27" ++ String.singleton c ++ "\x27"))
        | _ => assignments n env dir zero args
  assignments : Nat → List (String × String) → Option String → Bool → List String → LaunchPlan
    | 0, _, _, _, _ => .effect {}
    | n + 1, env, dir, zero, args =>
      match args with
      | [] => finish env dir zero []
      | a :: rest =>
        let name := a.toList.takeWhile (· != '=')
        match a.toList.drop name.length with
        | [] => finish env dir zero args
        | _ :: value =>
          let v := (String.ofList name, String.ofList value)
          let env := if (env.lookup v.1).isSome then
              env.map fun w => if w.1 == v.1 then v else w
            else env ++ [v]
          assignments n env dir zero rest
  finish (env : List (String × String)) (dir : Option String) (zero : Bool) :
      List String → LaunchPlan
    | [] => match dir with
      | some _ => .effect (i.misused 125 "must specify command with --chdir (-C)")
      | none => .effect (writing (env.flatMap fun v =>
          (variableText v).toList ++ [if zero then '\x00' else '\n']))
    | command => match dir with
      | none => .run { command, env := some env }
      | some d =>
        if i.files.isDir i.dir d then .run { command, env := some env, dir := some (physical i.dir d) }
        else .effect (i.failing 125 ("cannot change directory to " ++ quotedPath d ++ ": " ++
          (match i.files.find i.dir d with
            | .ok _ => "Not a directory"
            | .error f => f.message)))

def planned (known valued : String) (longer : List (String × Char))
    (plan : Options → List String → LaunchPlan) : LaunchPlan :=
  match i.options? false 125 known.toList valued.toList longer with
  | .error e => .effect e
  | .ok (options, command) => plan options command

def timeoutPlan (signalOf : String → Option (Nat × String)) : LaunchPlan :=
  i.planned "vfp" "sk" [("foreground", 'f'), ("preserve-status", 'p'), ("verbose", 'v'),
      ("signal", 's'), ("kill-after", 'k')] fun (options : Options) args =>
    let signal? := match options.valueOf? 's' with
      | none => some (15, "TERM")
      | some name => signalOf
        (if "SIG".toList.isPrefixOf name.toList then String.ofList (name.toList.drop 3) else name)
    let after? := match options.valueOf? 'k' with
      | none => some none
      | some v => duration? v
    let badTime (arg : String) : LaunchPlan :=
      .effect (i.misused 125 ("invalid time interval " ++ shownArgument arg))
    match after?, signal?, args with
    | none, _, _ => badTime ((options.valueOf? 'k').getD "")
    | _, none, _ =>
      .effect (i.misused 125 (shownArgument ((options.valueOf? 's').getD "") ++ ": invalid signal"))
    | some _, some (signal, signalName), time :: c :: command =>
      match duration? time with
      | none => badTime time
      | some t => .run { command := c :: command
                         limit := t.bind fun ms => if ms = 0 then none else some {
                            ms, signal, keepsStatus := options.has 'p'
                            notice := if options.has 'v' then some (i.name ++ ": sending signal " ++
                                signalName ++ " to command " ++ quotedPath c) else none } }
    | _, _, _ => .effect
      (({} : Effect).complain 125 ("Try \x27" ++ i.name ++ " --help\x27 for more information."))

def nohupPlan : LaunchPlan :=
  i.planned "" "" [] fun _ command =>
    if command.isEmpty then .effect (i.misused 125 "missing operand") else .run { command }

def nicePlan : LaunchPlan :=
  let isOldForm (a : String) : Bool := match a.toList with
    | '-' :: c :: cs => c.isDigit || ((c == '-' || c == '+') && cs.head?.any Char.isDigit)
    | _ => false
  let args := i.args.flatMap fun a =>
    if isOldForm a then ["-n", String.ofList (a.toList.drop 1)] else [a]
  let front := i.args.takeWhile isOldForm
  let args := args.take (2 * front.length) ++ i.args.drop front.length
  { i with args }.planned "" "n" [("adjustment", 'n')] fun (options : Options) command =>
    let isNumber (v : String) : Bool :=
      let v := v.toList.dropWhile isSpace
      (natOf? (if v.head?.any "+-".toList.contains then v.drop 1 else v)).isSome
    match options.valueOf? 'n' with
    | none => if command.isEmpty then .effect (writing (lineOf "0")) else .run { command }
    | some v =>
      if !isNumber v then .effect (i.failing 125 ("invalid adjustment " ++ shownArgument v))
      else if command.isEmpty then
        .effect (i.misused 125 "a command must be given with an adjustment")
      else .run { command }

def quotedWords : Nat → List Char → Option (List (List Char))
  | 0, _ => some []
  | n + 1, s =>
    match s.dropWhile isSpace with
    | [] => some []
    | t => do
      let (word, rest) ← word (t.length + 1) t
      return word :: (← quotedWords n rest)
where
  word : Nat → List Char → Option (List Char × List Char)
    | 0, _ => none
    | _ + 1, [] => some ([], [])
    | n + 1, '\\' :: c :: s => (word n s).map fun (w, rest) => (c :: w, rest)
    | n + 1, c :: s =>
      if isSpace c then some ([], c :: s)
      else if c = '"' ∨ c = '\x27' then
        let inside := s.takeWhile (· != c)
        if inside.contains '\n' then none
        else match s.drop inside.length with
          | _ :: rest => (word n rest).map fun (w, rest) => (inside ++ w, rest)
          | [] => none
      else (word n s).map fun (w, rest) => (c :: w, rest)

def replacing (mark item : List Char) : Nat → List Char → List Char
  | 0, s => s
  | _ + 1, [] => []
  | n + 1, c :: s =>
    if mark ≠ [] ∧ mark.isPrefixOf (c :: s) then
      item ++ replacing mark item n ((c :: s).drop mark.length)
    else c :: replacing mark item n s

def groupsOf (size : Nat) (items : List String) : List (List String) :=
  (List.range ((items.length + size - 1) / size)).map fun (k : Nat) =>
    (items.drop (k * size)).take size

def xargsPlan : LaunchPlan :=
  go (i.args.length + 1) [] i.args
where
  go : Nat → Options → List String → LaunchPlan
    | 0, options, args => finish options args
    | n + 1, options, args =>
      match args with
      | [] => finish options []
      | "--" :: rest => finish options rest
      | a :: rest => match a.toList with
        | '-' :: c :: cs =>
          if "r0tpx".toList.contains c then
            go n (options ++ [(c, "")])
              (if cs.isEmpty then rest else String.ofList ('-' :: cs) :: rest)
          else if "nILdPs".toList.contains c then
            match (if cs.isEmpty then rest.head? else some (String.ofList cs)) with
            | some v => go n (options ++ [(c, v)]) (if cs.isEmpty then rest.drop 1 else rest)
            | none => .effect (i.misused 1
                ("option requires an argument -- \x27" ++ String.singleton c ++ "\x27"))
          else .effect (i.misused 1 ("invalid option -- \x27" ++ String.singleton c ++ "\x27"))
        | _ => finish options args
  finish (options : Options) (command : List String) : LaunchPlan :=
    let command := if command.isEmpty then ["echo"] else command
    let cutAt (c : Char) : List (List Char) :=
      let parts := Text.splitAt c i.input
      if parts.getLast? = some [] then parts.dropLast else parts
    let items? : Option (List (List Char)) :=
      if options.has '0' then some (cutAt '\x00')
      else match options.valueOf? 'd' with
        | some d => some (cutAt ((expandEscapes .printf d.toList).1.headD '\n'))
        | none =>
          if options.has 'I' then
            some ((bareLines i.input).filterMap fun l =>
              let l := l.dropWhile isSpace
              if l.isEmpty then none else some l)
          else quotedWords (i.input.length + 1) i.input
    match items? with
    | none => .effect (i.failing 1 ("unmatched single quote; by default quotes are special to xargs" ++
        " unless you use the -0 option"))
    | some items =>
      let items := items.map String.ofList
      match options.valueOf? 'I' with
      | some mark =>
        .each (items.map fun item => command.take 1 ++ (command.drop 1).map fun a =>
          String.ofList (replacing mark.toList item.toList (a.length + 1) a.toList))
          (options.has 't')
      | none =>
        let count := (options.valueOf? 'n').bind fun n => natOf? n.toList
        let groups := match count with
          | some n => if n = 0 then [items] else groupsOf n items
          | none => [items]
        let groups := if items.isEmpty then (if options.has 'r' then [] else [[]]) else groups
        .each (groups.map (command ++ ·)) (options.has 't')

end Invocation

end HostProbe.Posix
