import HostProbe.Posix.Edit
import HostProbe.Posix.Utility.Basic

/-! # Editing lines

One utility runs a script of editing commands over the lines of its input. -/

namespace HostProbe.Posix

open Effect

structure EditState where
  rest : List (List Char)
  space : List Char := []
  hold : List Char := []
  number : Nat := 0
  ended : Bool := true
  open_ : List (Nat × Option Nat) := []
  out : List (List Char) := []
  unfinished : Bool := false
  later : List (List Char) := []
  replaced : Bool := false
  regex : Option Regex := none

inductive CycleEnd where
  | finished
  | deleted
  | restarted
  | stopped (prints : Bool) (status : Nat)
  | endless

namespace EditState

def write (s : EditState) (text : List Char) : EditState :=
  { s with out := text :: (if s.unfinished then ['\n'] :: s.out else s.out), unfinished := false }

def writeLine (s : EditState) (text : List Char) : EditState :=
  if s.ended then s.write (text ++ ['\n']) else { s.write text with unfinished := true }

def flush (s : EditState) : EditState := { s.later.reverse.foldl write s with later := [] }

def fits (s : EditState) (a : EditAddress) : Bool × EditState :=
  match a with
  | .line n => (s.number = n, s)
  | .last => (s.rest.isEmpty, s)
  | .every first step =>
    (if step = 0 then s.number = first else first ≤ s.number && (s.number - first) % step = 0, s)
  | .holding r ignoreCase =>
    match r.or s.regex with
    | none => (false, s)
    | some r => ((r.find? ignoreCase (fun _ => true) [] s.space).isSome, { s with regex := some r })

def applies (s : EditState) (k : Nat) (range : EditRange) : Bool × EditState :=
  let close (s : EditState) : EditState := { s with open_ := s.open_.filter (·.1 ≠ k) }
  let openUntil (s : EditState) (n : Option Nat) : EditState :=
    { s with open_ := (k, n) :: s.open_ }
  match range with
  | .all => (true, s)
  | .one a => s.fits a
  | .between a b =>
    let first := s.number = 1 && (match a with
      | .line 0 => true
      | _ => false)
    if (s.open_.lookup k).isSome || first then
      let s := if first then openUntil s none else s
      match b with
      | .line n => (s.number ≤ n, if n ≤ s.number then close s else s)
      | b =>
        let (ends, s) := s.fits b
        (true, if ends then close s else s)
    else
      let (begins, s) := s.fits a
      if !begins then (false, s)
      else match b with
        | .line n => (true, if n ≤ s.number then s else openUntil s none)
        | .last => (true, if s.rest.isEmpty then s else openUntil s none)
        | _ => (true, openUntil s none)
  | .following a n =>
    match s.open_.lookup k with
    | some last => (true, if last.any (· ≤ s.number) then close s else s)
    | none =>
      let (begins, s) := s.fits a
      (begins, if begins ∧ 0 < n then openUntil s (some (s.number + n)) else s)

def replacementOf (f : Regex.Fit) (parts : List ReplacementPart) : List Char :=
  let change (upper : Option Bool) (c : Char) : Char := match upper with
    | some true => c.toUpper
    | some false => c.toLower
    | none => c
  let put (done : List Char × Option Bool × Option Bool) (text : List Char) :
      List Char × Option Bool × Option Bool :=
    let (out, all, next) := done
    match text with
    | [] => done
    | c :: cs => (out ++ change (next.or all) c :: cs.map (change all), all, none)
  (parts.foldl (fun (done : List Char × Option Bool × Option Bool) part => match part with
    | .text t => put done t
    | .group n => put done (if n = 0 then f.text else (f.groups.lookup n).getD [])
    | .letters upper true => (done.1, upper, none)
    | .letters upper false => (done.1, done.2.1, upper)) (([] : List Char), none, none)).1

def replaceIn (r : Regex) (s : Substitution) : Nat → (count : Nat) → (afterFit : Bool) →
    (passed rest : List Char) → List Char × Bool
  | 0, _, _, _, rest => (rest, false)
  | n + 1, count, afterFit, passed, rest =>
    match r.find? s.ignoreCase (fun _ => true) passed rest with
    | none => (rest, false)
    | some f =>
      let between := f.before.drop passed.length
      let behind := f.text.reverse ++ f.before.reverse
      if f.text.isEmpty && between.isEmpty && afterFit then
        match rest with
        | [] => ([], false)
        | c :: t =>
          let (out, found) := replaceIn r s n count false (c :: passed) t
          (c :: out, found)
      else
        let count := count + 1
        let here := if count < s.first then f.text else replacementOf f s.replacement
        if s.first ≤ count && !s.everywhere then (between ++ here ++ f.after, true)
        else if f.text.isEmpty then
          match f.after with
          | [] => (between ++ here, s.first ≤ count)
          | c :: t =>
            let (out, found) := replaceIn r s n count false (c :: behind) t
            (between ++ here ++ c :: out, found || s.first ≤ count)
        else
          let (out, found) := replaceIn r s n count true behind f.after
          (between ++ here ++ out, found || s.first ≤ count)

def substitute (s : EditState) (x : Substitution) : EditState :=
  match x.pattern.or s.regex with
  | none => s
  | some r =>
    let (space, found) := replaceIn r x (2 * s.space.length + 3) 0 false [] s.space
    let s := { s with regex := some r }
    if !found then s
    else
      let s := { s with space, replaced := true }
      if x.prints then s.writeLine s.space else s

def visibleSpace (s : EditState) : List Char :=
  let shown (c : Char) : List Char :=
    match c with
    | '\\' => ['\\', '\\']
    | '\n' => ['\\', 'n']
    | '\t' => ['\\', 't']
    | '\r' => ['\\', 'r']
    | '\x07' => ['\\', 'a']
    | '\x08' => ['\\', 'b']
    | '\x0c' => ['\\', 'f']
    | '\x0b' => ['\\', 'v']
    | c =>
      if 32 ≤ c.toNat ∧ c.toNat < 127 then [c]
      else
        let ds := Nat.toDigits 8 c.toNat
        '\\' :: (List.replicate (3 - ds.length) '0' ++ ds)
  let (lines, last) := s.space.foldl (fun (done : List (List Char) × List Char) c =>
    if 69 < done.2.length + (shown c).length then
      (done.1 ++ [done.2 ++ ['\\', '\n']], shown c)
    else (done.1, done.2 ++ shown c)) ([], [])
  lines.flatten ++ last ++ ['$', '\n']

def next? (s : EditState) : Option (List Char × EditState) :=
  match s.rest with
  | [] => none
  | l :: rest => some (withoutEnd l,
    { s with rest, number := s.number + 1, ended := l.getLast? = some '\n' })

end EditState

structure Editor where
  commands : Array EditCommand
  quiet : Bool

namespace Editor

variable (e : Editor)

def afterBlock (start : Nat) : Nat :=
  let step (done : Nat × Option Nat) (p : EditCommand × Nat) : Nat × Option Nat :=
    if done.2.isSome ∨ p.2 < start then done
    else match p.1.action with
      | .opening => (done.1 + 1, none)
      | .closing => if done.1 = 1 then (0, some (p.2 + 1)) else (done.1 - 1, none)
      | _ => done
  ((e.commands.zipIdx.foldl step (0, none)).2).getD e.commands.size

def labelled (name : List Char) : Nat :=
  if name.isEmpty then e.commands.size
  else (e.commands.findIdx? fun c => match c.action with
    | .label l => l == name
    | _ => false).getD e.commands.size

def run : Nat → Nat → EditState → CycleEnd × EditState
  | 0, _, s => (.endless, s)
  | n + 1, k, s =>
    match e.commands[k]? with
    | none => (.finished, s)
    | some c =>
      let (fits, s) := s.applies k c.range
      if fits = c.negated then
        match c.action with
        | .opening => run n (e.afterBlock k) s
        | _ => run n (k + 1) s
      else
        let go (s : EditState) : CycleEnd × EditState := run n (k + 1) s
        match c.action with
        | .opening => go s
        | .closing => go s
        | .label _ => go s
        | .substitute x => go (s.substitute x)
        | .transliterate table =>
          go { s with space := s.space.map fun c => (table.lookup c).getD c }
        | .jump name => run n (e.labelled name) s
        | .jumpIf replaced name =>
          if s.replaced = replaced then run n (e.labelled name) { s with replaced := false }
          else go { s with replaced := false }
        | .text 'a' t => go { s with later := t :: s.later }
        | .text 'i' t => go (s.write t)
        | .text _ t =>
          (.deleted, if c.negated || (s.open_.lookup k).isNone then s.write t else s)
        | .quit prints status => (.stopped prints status, s)
        | .plain '=' => go (s.write (lineOf (toString s.number)))
        | .plain 'd' => (.deleted, s)
        | .plain 'D' =>
          if s.space.contains '\n' then
            (.restarted, { s with space := (s.space.dropWhile (· != '\n')).drop 1 })
          else (.deleted, s)
        | .plain 'g' => go { s with space := s.hold }
        | .plain 'G' => go { s with space := s.space ++ '\n' :: s.hold }
        | .plain 'h' => go { s with hold := s.space }
        | .plain 'H' => go { s with hold := s.hold ++ '\n' :: s.space }
        | .plain 'l' => go (s.write s.visibleSpace)
        | .plain 'n' =>
          if s.rest.isEmpty then (.stopped true 0, s)
          else
            let s := (if e.quiet then s else s.writeLine s.space).flush
            match s.next? with
            | some (line, s) => go { s with space := line }
            | none => (.stopped false 0, s)
        | .plain 'N' =>
          match s.flush.next? with
          | some (line, s) => go { s with space := s.space ++ '\n' :: line }
          | none => (.stopped true 0, s)
        | .plain 'p' => go (s.writeLine s.space)
        | .plain 'P' => go (s.write (s.space.takeWhile (· != '\n') ++ ['\n']))
        | .plain 'x' => go { s with space := s.hold, hold := s.space }
        | .plain 'z' => go { s with space := [] }
        | .plain _ => go s

def stepLimit : Nat := 200000

def runAll : Nat → (reads : Bool) → EditState → EditState × Nat × Bool
  | 0, _, s => (s, 0, true)
  | n + 1, reads, s =>
    let next := if reads then s.next?.map fun (line, s) => { s with space := line, replaced := false }
      else some s
    match next with
    | none => (s, 0, false)
    | some s =>
      let print (s : EditState) : EditState := if e.quiet then s else s.writeLine s.space
      match e.run stepLimit 0 s with
      | (.finished, s) => runAll n true (print s).flush
      | (.deleted, s) => runAll n true s.flush
      | (.restarted, s) => runAll n false s.flush
      | (.stopped prints status, s) => ((if prints then print s else s).flush, status, false)
      | (.endless, s) => (s, 0, true)

end Editor

namespace Invocation

variable (i : Invocation)

def sed : Effect :=
  let args := i.args.map fun a => if a = "-i" then "-I" else a
  { i with args }.withOptions 1 "nErsuzI" "ef" [("quiet", 'n'), ("silent", 'n'), ("expression", 'e'),
      ("regexp-extended", 'E'), ("in-place", 'I'), ("separate", 's')]
    fun (options : Options) (args : List String) =>
      let given : List String := options.filterMap fun (o : Char × String) => if o.1 = 'e' then some o.2 else none
      let (script, paths) := if given.isEmpty then (args.headD "", args.drop 1)
        else (String.intercalate "\n" given, args)
      let dialect : Regex.Dialect :=
        if options.has 'E' || options.has 'r' then .extended else .basic
      let refused (place : Nat) (message : String) : Effect :=
        i.failing 1 ("-e expression #1, char " ++ toString place ++ ": " ++ message)
      if given.isEmpty ∧ args.isEmpty then
        ({} : Effect).complain 1 ("Usage: " ++ i.name ++
          " [OPTION]... \x7bscript-only-if-no-other-script\x7d [input-file]...")
      else match EditCommand.ofText dialect script.toList with
        | .error (message, place) => refused place message
        | .ok commands =>
          let depth := commands.foldl (fun (d : Int) (c : EditCommand) => match c.action with
            | .opening => d + 1
            | .closing => d - 1
            | _ => d) 0
          let wanted : List (List Char) := commands.toList.filterMap fun (c : EditCommand) => match c.action with
            | .jump name => some name
            | .jumpIf _ name => some name
            | _ => none
          let editor : Editor := ⟨commands, options.has 'n'⟩
          if 0 < depth then refused 0 "unmatched \x60\x7b\x27"
          else if depth < 0 then refused script.length "unexpected \x60\x7d\x27"
          else match wanted.find? fun (name : List Char) => !name.isEmpty &&
              editor.labelled name = commands.size with
          | some name => i.failing 4
              ("can\x27t find label for jump to \x60" ++ String.ofList name ++ "\x27")
          | none => if options.has 'I' then inPlace editor paths else edit editor paths
where
  edit (editor : Editor) (paths : List String) : Effect :=
    let (e, found) := i.contents paths fun path why =>
      if why = "Is a directory" then "couldn\x27t edit " ++ path ++ ": not a regular file"
      else "can\x27t read " ++ path ++ ": " ++ why
    let e := if e.status = 0 then e else { e with status := 2 }
    let (s, status, endless) := result editor (found.flatMap (·.2))
    { e.write s.out.reverse.flatten with
      status := if status ≠ 0 then status else e.status, endless := e.endless || endless }
  result (editor : Editor) (text : List Char) : EditState × Nat × Bool :=
    let lines := linesOf text
    editor.runAll (2 * lines.length + text.length + 2) true { rest := lines }
  inPlace (editor : Editor) (paths : List String) : Effect :=
    paths.foldl (fun e path =>
      match i.content path with
      | .error why => e.complain 4 (i.name ++ ": can\x27t read " ++ path ++ ": " ++ why)
      | .ok text =>
        let (s, _, endless) := result editor text
        match i.written (e.files.getD i.files) path s.out.reverse.flatten false with
        | .ok files => { e with files := some files, endless := e.endless || endless }
        | .error why => e.complain 4 (i.name ++ ": couldn\x27t open file " ++ path ++ ": " ++ why)) {}

end Invocation

end HostProbe.Posix
