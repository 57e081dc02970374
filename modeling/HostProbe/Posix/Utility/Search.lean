import HostProbe.Posix.Regex
import HostProbe.Posix.Utility.Basic

/-! # Looking for lines

One utility writes the lines that a regular expression fits, or tells how many there are. -/

namespace HostProbe.Posix

open Effect

structure SearchRule where
  pattern : Regex
  ignoreCase : Bool
  inverted : Bool
  wordOnly : Bool
  lineOnly : Bool

namespace SearchRule

def accepts (r : SearchRule) (f : Regex.Fit) : Bool :=
  (!r.lineOnly || (f.before.isEmpty && f.after.isEmpty)) &&
    (!r.wordOnly || (!f.before.getLast?.any Regex.Way.isWordChar &&
      !f.after.head?.any Regex.Way.isWordChar))

def selects (r : SearchRule) (line : List Char) : Bool :=
  (r.pattern.find? r.ignoreCase r.accepts [] line).isSome != r.inverted

def partsIn (r : SearchRule) : Nat → (passed : List Char) → List Char → List (List Char)
  | 0, _, _ => []
  | n + 1, passed, s =>
    match r.pattern.find? r.ignoreCase r.accepts passed s with
    | none => []
    | some f =>
      if f.text.isEmpty then
        match f.after with
        | [] => []
        | c :: t => partsIn r n (c :: f.before.reverse) t
      else f.text :: partsIn r n (f.text.reverse ++ f.before.reverse) f.after

end SearchRule

namespace Invocation

variable (i : Invocation)

def patternOf (dialect : Option Regex.Dialect) (text : List Char) : Except String Regex := do
  let all ← (Text.splitAt '\n' text).mapM fun p => match dialect with
    | some d => Regex.ofText d p
    | none => .ok (Regex.ofLiteral p)
  match all with
  | [] => return .empty
  | r :: rs => return rs.foldl .either r

def grep (kind : Option Char) : Effect :=
  i.withOptions 2 "EFGchiLlnoqsvwxHyab" "emABC" [("extended-regexp", 'E'), ("fixed-strings", 'F'),
      ("count", 'c'), ("ignore-case", 'i'), ("line-number", 'n'), ("only-matching", 'o'),
      ("quiet", 'q'), ("silent", 'q'), ("invert-match", 'v'), ("word-regexp", 'w'),
      ("line-regexp", 'x'), ("regexp", 'e'), ("max-count", 'm'), ("no-filename", 'h'),
      ("with-filename", 'H'), ("files-with-matches", 'l'), ("files-without-match", 'L'),
      ("no-messages", 's'), ("text", 'a'), ("basic-regexp", 'G')] fun (options : Options) args =>
      let given := options.filterMap fun o => if o.1 = 'e' then some o.2 else none
      let (patterns, paths) := if given.isEmpty then (args.take 1, args.drop 1) else (given, args)
      let dialect := match (options.lastOf? ['E', 'F', 'G']).map Prod.fst with
        | some c => some c
        | none => kind
      if patterns.isEmpty then
        (({} : Effect).complain 2 ("Usage: " ++ i.name ++ " [OPTION]... PATTERNS [FILE]...")).complain
          2 ("Try \x27" ++ i.name ++ " --help\x27 for more information.")
      else match patternOf (match dialect with
          | some 'E' => some .extended
          | some 'F' => none
          | _ => some .basic) (String.intercalate "\n" patterns).toList with
        | .error message => i.failing 2 message
        | .ok pattern =>
          let rule : SearchRule := {
            pattern, ignoreCase := options.has 'i' || options.has 'y', inverted := options.has 'v'
            wordOnly := options.has 'w', lineOnly := options.has 'x' }
          search options rule paths
where
  search (options : Options) (rule : SearchRule) (paths : List String) : Effect :=
    let (e, found) := i.contents paths fun path why => path ++ ": " ++ why
    let e := if options.has 's' then { e with writes := [] } else e
    let limit := (options.valueOf? 'm').bind fun m => natOf? m.toList
    let named := options.has 'H' || (1 < paths.length && !options.has 'h')
    let results := found.map fun (path, text) =>
      let lines := (bareLines text).zipIdx
      let chosen := lines.filter fun l => rule.selects l.1
      (if path = "-" then "(standard input)" else path, text, match limit with
        | some n => chosen.take n
        | none => chosen)
    let front (path : String) (mark : String) : List Char :=
      if named then (path ++ mark).toList else []
    let count (f : String × List Char × List (List Char × Nat)) : Nat := f.2.2.length
    let any := results.any fun f => 0 < count f
    let written : List Char := results.flatMap fun f =>
      if options.has 'q' then []
      else if options.has 'L' then (if count f = 0 then lineOf f.1 else [])
      else if options.has 'l' then (if count f = 0 then [] else lineOf f.1)
      else if options.has 'c' then front f.1 ":" ++ lineOf (toString (count f))
      else if f.2.1.contains '\x00' && !options.has 'a' then []
      else f.2.2.flatMap fun (line, k) =>
        let mark := front f.1 ":" ++ (if options.has 'n' then (toString (k + 1) ++ ":").toList else [])
        if options.has 'o' then
          if options.has 'v' then []
          else (rule.partsIn (line.length + 1) [] line).flatMap fun p => mark ++ p ++ ['\n']
        else mark ++ line ++ ['\n']
    let binary := if options.has 'q' || options.has 'c' || options.has 'l' || options.has 'L' ||
        options.has 'a' then []
      else results.filter fun f => f.2.1.contains '\x00' && 0 < count f
    let out := binary.foldl (fun (e : Effect) f =>
      e.complain e.status (i.name ++ ": " ++ f.1 ++ ": binary file matches")) (e.write written)
    let found := if options.has 'L' then results.any fun f => count f = 0 else any
    { out with status := if e.status ≠ 0 && !(options.has 'q' && any) then 2 else if found then 0
        else 1 }

end Invocation

end HostProbe.Posix
