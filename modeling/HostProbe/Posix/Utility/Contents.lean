import HostProbe.Posix.Utility.Basic

/-! # Utilities that write what files hold

Each of these writes what its input or some files hold: all of it, its start, its end, or its lines
in another order or with numbers. -/

namespace HostProbe.Posix

open Effect

def sizeOf? (s : List Char) : Option Nat :=
  let ds := s.takeWhile Char.isDigit
  let units : List (String × Nat) :=
    [("", 1), ("b", 512), ("kB", 1000), ("K", 1024), ("k", 1024), ("KiB", 1024), ("MB", 1000000),
      ("M", 1048576), ("MiB", 1048576), ("GB", 1000000000), ("G", 1073741824)]
  if ds = [] then none
  else (units.lookup (String.ofList (s.drop ds.length))).map (digitsValue 10 ds * ·)

def visible (c : Char) : List Char :=
  let n := c.toNat
  let low (n : Nat) : List Char :=
    if n < 32 then ['^', Char.ofNat (n + 64)] else if n = 127 then ['^', '?'] else [Char.ofNat n]
  if n < 128 then low n else 'M' :: '-' :: low (n - 128)

def rightAligned (width n : Nat) : List Char :=
  let ds := Nat.toDigits 10 n
  List.replicate (width - ds.length) ' ' ++ ds

namespace Invocation

variable (i : Invocation)

def shownLine (options : Options) (line : List Char) : List Char :=
  let isShown (letters : String) : Bool := letters.toList.any options.has
  (withoutEnd line).flatMap (fun c =>
      if c = '\t' then (if isShown "TAt" then ['^', 'I'] else ['\t'])
      else if isShown "vAet" then visible c
      else [c]) ++
    (if line.getLast? = some '\n' then (if isShown "EAe" then ['$', '\n'] else ['\n']) else [])

def cat : Effect :=
  i.withOptions 1 "benstuvAET" "" [("show-all", 'A'), ("number-nonblank", 'b'), ("show-ends", 'E'),
      ("number", 'n'), ("squeeze-blank", 's'), ("show-tabs", 'T'), ("show-nonprinting", 'v')]
    fun options paths =>
      let (e, text) := i.joined paths
      if i.outputIsClosed then i.failing 1 "standard output: Bad file descriptor"
      else if options.isEmpty then e.write text
      else
        let kept := if options.has 's' then
            ((linesOf text).foldl (fun (kept : List (List Char)) line =>
              if line = ['\n'] ∧ kept.head? = some ['\n'] then kept else line :: kept) []).reverse
          else linesOf text
        let isCounted (line : List Char) : Bool :=
          if options.has 'b' then line ≠ ['\n'] else options.has 'n'
        e.write (kept.foldl (fun (out, n) line =>
          if isCounted line then
            (out ++ [rightAligned 6 n ++ '\t' :: shownLine options line], n + 1)
          else (out ++ [shownLine options line], n)) (([] : List (List Char)), 1)).1.flatten

structure Portion where
  bytes : Bool
  fromOther : Bool
  count : Nat

namespace Portion

def read? (mark : Char) (bytes : Bool) (value : String) : Option Portion :=
  match value.toList with
  | c :: cs =>
    if c == mark then (sizeOf? cs).map (⟨bytes, true, ·⟩)
    else (sizeOf? (if c == '-' || c == '+' then cs else c :: cs)).map (⟨bytes, false, ·⟩)
  | [] => none

def start (p : Portion) (s : List Char) : List Char :=
  if p.bytes then s.take (if p.fromOther then s.length - p.count else p.count)
  else
    let ls := linesOf s
    (ls.take (if p.fromOther then ls.length - p.count else p.count)).flatten

def rest (p : Portion) (s : List Char) : List Char :=
  if p.bytes then s.drop (if p.fromOther then p.count - 1 else s.length - p.count)
  else
    let ls := linesOf s
    (ls.drop (if p.fromOther then p.count - 1 else ls.length - p.count)).flatten

def isMet (p : Portion) (s : List Char) : Bool :=
  !p.fromOther && (if p.bytes then p.count ≤ s.length else p.count ≤ s.count '\n')

end Portion

def withLineOption (args : List String) : List String :=
  match args with
  | a :: rest => match a.toList with
    | '-' :: c :: cs =>
      if (c :: cs).all Char.isDigit then "-n" :: String.ofList (c :: cs) :: rest else a :: rest
    | _ => a :: rest
  | [] => []

def portions (mark : Char) (more : String) (part : Portion → List Char → List Char)
    (enough : Portion → List Char → Bool) : Effect :=
  { i with args := withLineOption i.args }.withOptions 1 ("qvz" ++ more) "nc"
    [("lines", 'n'), ("bytes", 'c'), ("quiet", 'q'), ("silent", 'q'), ("verbose", 'v'),
      ("follow", 'f')] fun (options : Options) paths =>
      let chosen := (options.lastOf? ['n', 'c']).getD ('n', "10")
      match Portion.read? mark (chosen.1 = 'c') chosen.2 with
      | none => i.failing 1 ("invalid number of " ++ (if chosen.1 = 'c' then "bytes" else "lines") ++
          ": " ++ shownArgument chosen.2)
      | some p =>
        let paths := if paths.isEmpty then ["-"] else paths
        let marks := (options.lastOf? ['q', 'v']).map Prod.fst
        let titled := marks = some 'v' || (marks.isNone && 1 < paths.length)
        let step (e : Effect × Bool) (path : String) : Effect × Bool :=
          let title := if !titled then []
            else (if e.2 then ['\n'] else []) ++ lineOf ("==> " ++
              (if path = "-" then "standard input" else path) ++ " <==")
          match i.content path with
          | .ok s =>
            let met := enough p s
            let endless := i.isEndless path
            let isInput := path = "-"
            ({ e.1.write (title ++ part p s) with
                input := if !isInput then e.1.input else if met then .available else .all
                endless := e.1.endless || (endless && !met) }, true)
          | .error "Is a directory" =>
            ((e.1.write title).complain 1
              (i.name ++ ": error reading " ++ quotedPath path ++ ": Is a directory"), true)
          | .error why => (e.1.complain 1
              (i.name ++ ": cannot open " ++ quotedPath path ++ " for reading: " ++ why), e.2)
        let e := (paths.foldl step ({}, false)).1
        { e with endless := e.endless || options.has 'f' || options.has 'F' }

def head : Effect := i.portions '-' "" Portion.start Portion.isMet

def tail : Effect := i.portions '+' "fF" Portion.rest fun _ _ => false

def tac : Effect :=
  i.withOptions 1 "" "" [] fun _ paths =>
    let (e, found) := i.contents paths fun path why =>
      "failed to open " ++ quotedPath path ++ " for reading: " ++ why
    e.write (found.flatMap fun f => (linesOf f.2).reverse.flatten)

def rev : Effect :=
  i.withOptions 1 "" "" [] fun _ paths =>
    let (e, found) := i.contents paths fun path why => "cannot open " ++ path ++ ": " ++ why
    e.write ((found.flatMap fun f => linesOf f.2).flatMap fun line =>
      (withoutEnd line).reverse ++ line.drop (withoutEnd line).length)

def nl : Effect :=
  i.withOptions 1 "p" "bwsvin" [("body-numbering", 'b'), ("number-width", 'w'),
      ("number-separator", 's'), ("starting-line-number", 'v'), ("line-increment", 'i'),
      ("number-format", 'n')] fun options paths =>
      let (e, text) := i.joined paths
      let number (letter : Char) (default : Nat) : Nat :=
        ((options.valueOf? letter).bind fun v => natOf? v.toList).getD default
      let width := number 'w' 6
      let joint := ((options.valueOf? 's').getD "\t").toList
      let style := (options.valueOf? 'b').getD "t"
      let shown (n : Nat) : List Char :=
        let ds := Nat.toDigits 10 n
        match options.valueOf? 'n' with
        | some "ln" => ds ++ List.replicate (width - ds.length) ' '
        | some "rz" => List.replicate (width - ds.length) '0' ++ ds
        | _ => rightAligned width n
      let isCounted (line : List Char) : Bool :=
        style = "a" || (style = "t" && !(withoutEnd line).isEmpty)
      let step (done : List (List Char) × Nat) (line : List Char) : List (List Char) × Nat :=
        let bare := withoutEnd line
        if isCounted line then
          ((shown done.2 ++ joint ++ bare ++ ['\n']) :: done.1, done.2 + number 'i' 1)
        else ((List.replicate (width + joint.length) ' ' ++ bare ++ ['\n']) :: done.1, done.2)
      e.write ((linesOf text).foldl step ([], number 'v' 1)).1.reverse.flatten

def tee : Effect :=
  i.withOptions 1 "aip" "" [("append", 'a'), ("ignore-interrupts", 'i')] fun options paths =>
    let (e, files) := paths.foldl (fun ((e : Effect), files) path =>
      if path = "/dev/stderr" then ({ e with writes := e.writes ++ [(true, i.input)] }, files)
      else if path = "/dev/stdout" then (e.write i.input, files)
      else match i.written files path i.input (options.has 'a') with
      | .ok files => (e, files)
      | .error why => (e.complain 1 (i.name ++ ": " ++ shownPath path ++ ": " ++ why), files))
      (({} : Effect).write i.input, i.files)
    { e with files := some files, input := .all, endless := i.endless }

end Invocation

end HostProbe.Posix
