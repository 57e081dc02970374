import HostProbe.Posix.Utility.Basic

/-! # Utilities that cut and join lines

Parts of lines, lines side by side, and lines of a limited width. -/

namespace HostProbe.Posix

open Effect

structure PartRange where
  first : Nat
  last : Option Nat

namespace PartRange

def holds (r : PartRange) (n : Nat) : Bool := r.first ≤ n && r.last.all (n ≤ ·)

def read? (s : List Char) : Except String PartRange :=
  let a := s.takeWhile (· != '-')
  let rest := s.drop a.length
  let number (ds : List Char) : Except String Nat :=
    match natOf? ds with
    | some 0 => .error "are numbered from 1"
    | some n => .ok n
    | none => .error ""
  match rest with
  | [] => (number a).map fun n => ⟨n, some n⟩
  | _ :: b => do
    if a = [] ∧ b = [] then throw "invalid range with no endpoint: -"
    let first ← if a = [] then pure 1 else number a
    let last ← if b = [] then pure none else (number b).map some
    match last with
    | some n => if n < first then throw "invalid decreasing range" else return ⟨first, some n⟩
    | none => return ⟨first, none⟩

def readAll (s : List Char) : Except String (List PartRange) :=
  (Text.splitAt ',' (s.map fun c => if c = ' ' ∨ c = '\t' then ',' else c)).mapM read?

end PartRange

namespace Invocation

variable (i : Invocation)

def cut : Effect :=
  i.withOptions 1 "nszN" "bcdfO" [("bytes", 'b'), ("characters", 'c'), ("delimiter", 'd'),
      ("fields", 'f'), ("only-delimited", 's'), ("output-delimiter", 'O'),
      ("complement", 'N')] fun (options : Options) paths =>
    match options.filter fun o => "bcf".toList.contains o.1 with
    | [] => i.misused 1 "you must specify a list of bytes, characters, or fields"
    | [(kind, list)] =>
      let delimiter := (options.valueOf? 'd').getD "\t"
      if kind ≠ 'f' ∧ (options.has 'd' ∨ options.has 's') then
        i.misused 1 (if options.has 'd' then
            "an input delimiter may be specified only when operating on fields"
          else "suppressing non-delimited lines makes sense\n\tonly when operating on fields")
      else if 1 < delimiter.length then
        i.misused 1 "the delimiter must be a single character"
      else match PartRange.readAll list.toList with
      | .error "" => i.misused 1 ("invalid " ++ (if kind = 'f' then "field value"
          else "byte/character position") ++ " " ++ shownArgument list)
      | .error "are numbered from 1" => i.misused 1 ((if kind = 'f' then "fields"
          else "byte/character positions") ++ " are numbered from 1")
      | .error message => i.misused 1 message
      | .ok ranges =>
        let isChosen (n : Nat) : Bool := (ranges.any (·.holds n)) != options.has 'N'
        let (e, text) := i.joined paths
        let cutter := delimiter.toList.headD '\x00'
        let joint := ((options.valueOf? 'O').getD (if kind = 'f' then delimiter else "")).toList
        let chosen (parts : List (List Char)) : List (List Char) :=
          (parts.zipIdx.filter fun p => isChosen (p.2 + 1)).map (·.1)
        let line (l : List Char) : List Char :=
          if kind ≠ 'f' then
            (chosen (l.map ([·]))).flatten ++ ['\n']
          else
            let parts := Text.splitAt cutter l
            if parts.length = 1 then (if options.has 's' then [] else l ++ ['\n'])
            else (List.intersperse joint (chosen parts)).flatten ++ ['\n']
        e.write ((bareLines text).flatMap line)
    | _ => i.misused 1 "only one list may be specified"

def paste : Effect :=
  i.withOptions 1 "sz" "d" [("delimiters", 'd'), ("serial", 's')] fun (options : Options) paths =>
      let (e, found) := i.contents paths fun path why => shownPath path ++ ": " ++ why
      let found := found.map fun (path, s) => (path, if path = "-" then i.input else s)
      if e.status ≠ 0 then e
      else
        let marks := ((options.valueOf? 'd').getD "\t").toList
        let joints := marksOf marks
        let joint (k : Nat) : List Char :=
          if joints.isEmpty then [] else joints.getD (k % joints.length) []
        let join (ls : List (List Char)) : List Char :=
          (ls.zipIdx.flatMap fun (l, k) => (if k = 0 then [] else joint (k - 1)) ++ l) ++ ['\n']
        let inputs := (found.filter (·.1 = "-")).length
        let streams := (found.zipIdx.map fun (f, k) =>
          let ls := bareLines f.2
          if f.1 ≠ "-" ∨ inputs ≤ 1 then ls
          else
            let place := ((found.take k).filter (·.1 = "-")).length
            if options.has 's' then (if place = 0 then ls else [])
            else (ls.zipIdx.filter fun l => l.2 % inputs = place).map (·.1))
        if options.has 's' then e.write (streams.flatMap join)
        else
          let height := (streams.map List.length).foldl max 0
          e.write ((List.range height).flatMap fun (n : Nat) =>
            join (streams.map fun ls => ls.getD n []))
where
  marksOf : List Char → List (List Char)
    | '\\' :: c :: s =>
      (if c = '0' then [] else if c = 'n' then ['\n'] else if c = 't' then ['\t'] else [c]) ::
        marksOf s
    | c :: s => [c] :: marksOf s
    | [] => []

def fold : Effect :=
  i.withOptions 1 "bs" "w" [("bytes", 'b'), ("spaces", 's'), ("width", 'w')]
    fun (options : Options) paths =>
      match natOf? ((options.valueOf? 'w').getD "80").toList with
      | none => i.failing 1
          ("invalid number of columns: " ++ shownArgument ((options.valueOf? 'w').getD ""))
      | some 0 => i.failing 1
          ("invalid number of columns: " ++ shownArgument ((options.valueOf? 'w').getD "") ++
            ": Numerical result out of range")
      | some width =>
        let (e, text) := i.joined paths
        let wide (column : Nat) (c : Char) : Nat :=
          if options.has 'b' then column + 1
          else if c = '\t' then column + 8 - column % 8
          else if c = '\x08' then column - 1
          else if c = '\r' then 0
          else column + 1
        let breakPoint (line : List Char) : Nat :=
          if options.has 's' then
            match line.findIdx? fun c => c == ' ' || c == '\t' with
            | some k => k
            | none => 0
          else 0
        let step (done : List (List Char) × List Char × Nat) (c : Char) :
            List (List Char) × List Char × Nat :=
          let (out, line, column) := done
          if wide column c ≤ width ∨ line = [] then (out, c :: line, wide column c)
          else
            let k := breakPoint line
            let kept := line.take k
            let broken := line.drop k
            if k = 0 then (line.reverse :: out, [c], wide 0 c)
            else
              let column := kept.reverse.foldl wide 0
              (broken.reverse :: out, c :: kept, wide column c)
        let folded (l : List Char) : List Char :=
          let (out, line, _) := (withoutEnd l).foldl step ([], [], 0)
          (List.intersperse ['\n'] (line.reverse :: out).reverse).flatten ++
            l.drop (withoutEnd l).length
        e.write ((linesOf text).flatMap folded)

end Invocation

end HostProbe.Posix
