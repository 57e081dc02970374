import HostProbe.Posix.Condition
import HostProbe.Posix.Fraction
import HostProbe.Posix.Utility.Basic
import HostProbe.Posix.Utility.Files

/-! # Utilities that ask about what is around them

The environment, the machine and the user, the passing of time, and conditions. -/

namespace HostProbe.Posix

open Effect

def duration? (arg : String) : Option (Option Nat) := do
  let (value, unit) ← Fraction.read? arg.toList
  let ms : Nat ← match unit with
    | [] => some 1000
    | ['s'] => some 1000
    | ['m'] => some 60000
    | ['h'] => some 3600000
    | ['d'] => some 86400000
    | _ => none
  match value with
  | .finite negative x =>
    if negative && x.num ≠ 0 then none else some (some ((x.num * ms + x.den - 1) / x.den))
  | .infinite false => some none
  | _ => none

def variableText (v : String × String) : String := v.1 ++ "=" ++ v.2

def searchedIn (env : List (String × String)) : List String :=
  ((env.lookup "PATH").map fun p => (Text.splitAt ':' p.toList).map String.ofList).getD
    ["/bin", "/usr/bin"]

namespace Invocation

variable (i : Invocation)

def printenv : Effect :=
  i.withOptions 2 "0" "" [("null", '0')] fun (options : Options) names =>
    let stop := if options.has '0' then '\x00' else '\n'
    if names.isEmpty then writing (i.env.flatMap fun v => (variableText v).toList ++ [stop])
    else
      let found (name : String) : List String :=
        if name.toList.contains '=' then []
        else (i.env.filter (·.1 == name)).map (·.2)
      let all := names.map found
      { writing (all.flatten.flatMap fun v => v.toList ++ [stop]) with
        status := if all.any List.isEmpty then 1 else 0 }

def sleep : Effect :=
  i.withOptions 1 "" "" [] fun _ args =>
    let bad := args.filter fun a => (duration? a).isNone
    if args.isEmpty then i.misused 1 "missing operand"
    else if bad.isEmpty then
      let times := args.filterMap duration?
      { ms := (times.map (·.getD 0)).foldl Nat.add 0, endless := times.any Option.isNone }
    else
      (bad.foldl (fun (e : Effect) a => e.complain 1
        (i.name ++ ": invalid time interval " ++ shownArgument a)) ({} : Effect)).complain 1
        ("Try \x27" ++ i.name ++ " --help\x27 for more information.")

def uname : Effect :=
  i.withOptions 1 "asnrvmpio" "" [("all", 'a'), ("kernel-name", 's'), ("machine", 'm'),
      ("operating-system", 'o')] fun (options : Options) args =>
      match args with
      | a :: _ => i.misused 1 ("extra operand " ++ quotedPath a)
      | [] =>
        let all := options.has 'a'
        let parts := [('s', "Linux"), ('m', "x86_64"), ('o', "GNU/Linux")].filterMap fun (c, v) =>
          if all || options.has c || (c = 's' && options.isEmpty) then some v else none
        writing (lineOf (String.intercalate " " parts))

def id : Effect :=
  i.withOptions 1 "ugGnrz" "" [("user", 'u'), ("group", 'g'), ("groups", 'G'), ("name", 'n')]
    fun (options : Options) args =>
      if args.any (· != "root") then
        i.failing 1 (quotedPath (args.headD "") ++ ": no such user")
      else if options.has 'u' || options.has 'g' || options.has 'G' then
        writing (lineOf (if options.has 'n' then "root" else "0"))
      else writing (lineOf "uid=0(root) gid=0(root) groups=0(root)")

def whoami : Effect :=
  match i.args with
  | [] => writing (lineOf "root")
  | a :: _ => i.misused 1 ("extra operand " ++ quotedPath a)

def which : Effect :=
  let args := i.args.filter (· != "-a")
  let all := args.length ≠ i.args.length
  let find (name : String) : List String :=
    if name.toList.contains '/' then
      (if i.files.isProgram i.dir name then [name] else [])
    else
      let found := i.files.programsIn i.dir (searchedIn i.env) name
      if all then found else found.take 1
  { writing (args.flatMap fun a => (find a).flatMap lineOf) with
    status := if args.isEmpty || args.any fun a => (find a).isEmpty then 1 else 0 }

def condition : Effect :=
  match Condition.utilityHolds ⟨i.files, i.dir⟩ i.name i.args with
  | .ok yes => answering yes
  | .error message => i.failing 2 message

end Invocation

end HostProbe.Posix
