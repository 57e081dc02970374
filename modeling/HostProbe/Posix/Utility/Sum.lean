import HostProbe.Posix.Regex
import HostProbe.Posix.Utility.Basic

/-! # Values of expressions

One utility works out expressions whose operators and operands are its arguments. A value is a text;
one that is an integer counts as a number. -/

namespace HostProbe.Posix

open Effect

namespace Evaluation

def intOf? (s : List Char) : Option Int :=
  match s with
  | '-' :: s => (natOf? s).map fun n => -(n : Int)
  | s => (natOf? s).map Int.ofNat

def isNull (s : List Char) : Bool := s.isEmpty || intOf? s = some 0

abbrev Step := Except String (List Char × List String)

def operators : Nat → List String
  | 0 => ["|"]
  | 1 => ["&"]
  | 2 => ["<", "<=", "=", "==", "!=", ">=", ">"]
  | 3 => ["+", "-"]
  | 4 => ["*", "/", "%"]
  | 5 => [":"]
  | _ => []

def matching (s pattern : List Char) : Except String (List Char) := do
  let r ← Regex.ofText .basic pattern
  let hasGroup := (pattern.zip (pattern.drop 1)).contains ('\\', '(')
  match Regex.longest (r.ways false ⟨[], s, []⟩) with
  | none => return if hasGroup then [] else ['0']
  | some w =>
    return if hasGroup then (w.groups.lookup 1).getD []
      else (toString (s.length - w.rest.length)).toList

def apply (op : String) (a b : List Char) : Except String (List Char) :=
  let shown (n : Int) : List Char := (toString n).toList
  let truth (yes : Bool) : List Char := if yes then ['1'] else ['0']
  let sum (f : Int → Int → Except String Int) : Except String (List Char) :=
    match intOf? a, intOf? b with
    | some x, some y => (f x y).map shown
    | _, _ => .error "non-integer argument"
  let order : Ordering := match intOf? a, intOf? b with
    | some x, some y => compare x y
    | _, _ => if a < b then .lt else if b < a then .gt else .eq
  match op with
  | "|" => .ok (if isNull a then (if isNull b then ['0'] else b) else a)
  | "&" => .ok (if isNull a || isNull b then ['0'] else a)
  | "<" => .ok (truth (order = .lt))
  | "<=" => .ok (truth (order ≠ .gt))
  | "=" => .ok (truth (order = .eq))
  | "==" => .ok (truth (order = .eq))
  | "!=" => .ok (truth (order ≠ .eq))
  | ">=" => .ok (truth (order ≠ .lt))
  | ">" => .ok (truth (order = .gt))
  | "+" => sum fun x y => .ok (x + y)
  | "-" => sum fun x y => .ok (x - y)
  | "*" => sum fun x y => .ok (x * y)
  | "/" => sum fun x y => if y = 0 then .error "division by zero" else .ok (x.tdiv y)
  | "%" => sum fun x y => if y = 0 then .error "division by zero" else .ok (x.tmod y)
  | _ => matching a b

def missing (previous : String) : String :=
  "syntax error: missing argument after " ++ shownArgument previous

mutual

def level : Nat → Nat → (previous : String) → List String → Step
  | 0, _, previous, _ => .error (missing previous)
  | n + 1, k, previous, args => do
    if 5 < k then prefixed n previous args
    else
      let (a, rest) ← level n (k + 1) previous args
      more n k a rest

def more : Nat → Nat → List Char → List String → Step
  | 0, _, a, args => .ok (a, args)
  | n + 1, k, a, args =>
    match args with
    | op :: rest =>
      if (operators k).contains op then do
        let (b, rest) ← level n (k + 1) op rest
        more n k (← apply op a b) rest
      else .ok (a, args)
    | [] => .ok (a, [])

def prefixed : Nat → (previous : String) → List String → Step
  | 0, previous, _ => .error (missing previous)
  | n + 1, previous, args =>
    match args with
    | [] => .error (missing previous)
    | "(" :: rest => do
      let (a, rest) ← level n 0 "(" rest
      match rest with
      | ")" :: rest => return (a, rest)
      | [] => throw ("syntax error: expecting \x27)\x27 after " ++ shownArgument (args.getLastD ""))
      | x :: _ => throw ("syntax error: expecting \x27)\x27 instead of " ++ shownArgument x)
    | ")" :: _ => .error "syntax error: unexpected \x27)\x27"
    | "+" :: a :: rest => .ok (a.toList, rest)
    | "length" :: rest => do
      let (a, rest) ← prefixed n "length" rest
      return ((toString a.length).toList, rest)
    | "match" :: rest => do
      let (a, rest) ← prefixed n "match" rest
      let (b, rest) ← prefixed n (String.ofList a) rest
      return (← matching a b, rest)
    | "index" :: rest => do
      let (a, rest) ← prefixed n "index" rest
      let (b, rest) ← prefixed n (String.ofList a) rest
      return ((toString ((a.findIdx? b.contains).elim 0 (· + 1))).toList, rest)
    | "substr" :: rest => do
      let (a, rest) ← prefixed n "substr" rest
      let (b, rest) ← prefixed n (String.ofList a) rest
      let (c, rest) ← prefixed n (String.ofList b) rest
      let part := match intOf? b, intOf? c with
        | some x, some y => if 0 < x ∧ 0 < y then (a.drop (x.toNat - 1)).take y.toNat else []
        | _, _ => []
      return (part, rest)
    | a :: rest => .ok (a.toList, rest)

end

end Evaluation

def Invocation.expr (i : Invocation) : Effect :=
  match (if i.args.head? = some "--" then i.args.drop 1 else i.args) with
  | [] => i.misused 2 "missing operand"
  | args =>
    match Evaluation.level (16 * args.length + 16) 0 "" args with
    | .error "division by zero" => i.failing 2 "division by zero"
    | .error message => i.failing 2 message
    | .ok (_, x :: _) => i.failing 2 ("syntax error: unexpected argument " ++ shownArgument x)
    | .ok (v, []) =>
      { writing (v ++ ['\n']) with status := if Evaluation.isNull v then 1 else 0 }

end HostProbe.Posix
