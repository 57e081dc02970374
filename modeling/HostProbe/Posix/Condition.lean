import HostProbe.Posix.FileTree
import HostProbe.Posix.Bytes
import HostProbe.Posix.Quoting

/-! # Conditions

The conditions that `test` decides: texts and numbers that are compared, and files that are looked
for, with negation, conjunction, disjunction and brackets. -/

namespace HostProbe.Posix

structure Circumstances where
  files : FileTree
  dir : String

inductive ConditionFault where
  | missingBracket
  | closingExpected
  | argumentExpected (op : String)
  | unexpectedOperator (arg : String)
  | notNumber (arg : String)
  deriving DecidableEq, Repr

namespace ConditionFault

def message : ConditionFault → String
  | .missingBracket => "missing ]"
  | .closingExpected => "closing paren expected"
  | .argumentExpected op => op ++ ": argument expected"
  | .unexpectedOperator arg => (if arg.isEmpty then "" else arg ++ ": ") ++ "unexpected operator"
  | .notNumber arg => "Illegal number: " ++ arg

def utilityMessage : ConditionFault → String
  | .missingBracket => "missing \x27]\x27"
  | .closingExpected => "\x27)\x27 expected"
  | .argumentExpected op => "missing argument after " ++ shownArgument op
  | .unexpectedOperator arg => "extra argument " ++ shownArgument arg
  | .notNumber arg => "invalid integer " ++ shownArgument arg

end ConditionFault

namespace Condition

def unary : List String :=
  ["-r", "-w", "-x", "-e", "-f", "-d", "-c", "-b", "-p", "-u", "-g", "-k", "-s", "-t", "-z", "-n",
    "-h", "-O", "-G", "-L", "-S"]

def binary : List String :=
  ["=", "!=", "<", ">", "-eq", "-ne", "-ge", "-gt", "-le", "-lt", "-nt", "-ot", "-ef"]

inductive Kind where
  | nothing
  | operand
  | unary
  | binary
  | negation
  | conjunction
  | disjunction
  | opening
  | closing
  deriving DecidableEq

def kind : List String → Kind
  | [] => .nothing
  | a :: rest =>
    if unary.contains a then
      match rest with
      | [] => .operand
      | [_] => .unary
      | b :: _ => if binary.contains b then .operand else .unary
    else if binary.contains a then .binary
    else if a = "!" then .negation
    else if a = "-a" then .conjunction
    else if a = "-o" then .disjunction
    else if a = "(" then if rest.isEmpty then .operand else .opening
    else if a = ")" then .closing
    else .operand

def numberOf (arg : String) : Except ConditionFault Int :=
  let isGap (c : Char) : Bool := c == ' ' || (9 ≤ c.toNat && c.toNat ≤ 13)
  let t := arg.toList.dropWhile isGap
  let (negative, t) := match t with
    | '-' :: t => (true, t)
    | '+' :: t => (false, t)
    | t => (false, t)
  let ds := t.takeWhile Char.isDigit
  if ds = [] ∨ ¬(t.drop ds.length).all isGap then .error (.notNumber arg)
  else
    let n : Int := digitsValue 10 ds
    .ok (if negative then -n else n)

variable (c : Circumstances)

def decideUnary (op arg : String) : Except ConditionFault Bool :=
  let entry := c.files.find? c.dir arg
  match op with
  | "-n" => .ok (!arg.isEmpty)
  | "-z" => .ok arg.isEmpty
  | "-t" => (numberOf arg).map fun _ => false
  | "-d" => .ok (entry = some .dir)
  | "-f" => .ok (match entry with
    | some (.file ..) => true
    | some .program => true
    | _ => false)
  | "-c" => .ok (match entry with
    | some (.device _) => true
    | _ => false)
  | "-s" => .ok (match entry with
    | some (.file content _) => !content.isEmpty ||
        ((c.files.find c.dir arg).toOption.any fun e => (FileTree.standard? e.1).isSome)
    | some .program => true
    | some .dir => true
    | _ => false)
  | "-x" => .ok (match entry with
    | some (.file _ mode) => mode % 2 = 1 || mode / 8 % 2 = 1 || mode / 64 % 2 = 1
    | some (.device _) => false
    | e => e.isSome)
  | "-h" => .ok (c.files.linkOf? c.dir arg).isSome
  | "-L" => .ok (c.files.linkOf? c.dir arg).isSome
  | _ => .ok (["-e", "-r", "-w", "-O", "-G"].contains op && entry.isSome)

def decideBinary (a op b : String) : Except ConditionFault Bool :=
  let compare (p : Int → Int → Bool) : Except ConditionFault Bool := do
    return p (← numberOf a) (← numberOf b)
  match op with
  | "=" => .ok (a == b)
  | "!=" => .ok (a != b)
  | "<" => .ok (decide (a < b))
  | ">" => .ok (decide (b < a))
  | "-eq" => compare (· == ·)
  | "-ne" => compare (· != ·)
  | "-lt" => compare fun a b => decide (a < b)
  | "-le" => compare fun a b => decide (a ≤ b)
  | "-gt" => compare fun a b => decide (b < a)
  | "-ge" => compare fun a b => decide (b ≤ a)
  | "-ef" => .ok (match c.files.find c.dir a, c.files.find c.dir b with
    | .ok (p, _), .ok (q, _) => p == q
    | _, _ => false)
  | "-nt" => .ok ((c.files.find? c.dir a).isSome && (c.files.find? c.dir b).isNone)
  | "-ot" => .ok ((c.files.find? c.dir a).isNone && (c.files.find? c.dir b).isSome)
  | _ => .ok false

abbrev Decision := Except ConditionFault (Bool × List String)

mutual

def disjunction : Nat → Kind → List String → Decision
  | 0, _, args => .ok (false, args)
  | n + 1, k, args => do
    let (a, args) ← conjunction n k args
    if kind (args.drop 1) = .disjunction then
      let (b, args) ← disjunction n (kind (args.drop 2)) (args.drop 2)
      return (a || b, args)
    else return (a, args)

def conjunction : Nat → Kind → List String → Decision
  | 0, _, args => .ok (false, args)
  | n + 1, k, args => do
    let (a, args) ← negation n k args
    if kind (args.drop 1) = .conjunction then
      let (b, args) ← conjunction n (kind (args.drop 2)) (args.drop 2)
      return (a && b, args)
    else return (a, args)

def negation : Nat → Kind → List String → Decision
  | 0, _, args => .ok (false, args)
  | n + 1, k, args =>
    if k = .negation then do
      let next := kind (args.drop 1)
      let (a, args) ← negation n next (if next = .nothing then args else args.drop 1)
      return (!a, args)
    else primary n k args

def primary : Nat → Kind → List String → Decision
  | 0, _, args => .ok (false, args)
  | n + 1, k, args =>
    match k with
    | .nothing => .ok (false, args)
    | .opening => do
      let inner := args.drop 1
      if kind inner = .closing then return (false, inner)
      let (a, args) ← disjunction n (kind inner) inner
      if kind (args.drop 1) = .closing then return (a, args.drop 1) else throw .closingExpected
    | .unary => match args with
      | op :: arg :: rest => do return (← decideUnary c op arg, arg :: rest)
      | op :: [] => .error (.argumentExpected op)
      | [] => .ok (false, [])
    | _ => match args with
      | a :: op :: rest =>
        if kind (op :: rest) = .binary then
          match rest with
          | b :: rest => do return (← decideBinary c a op b, b :: rest)
          | [] => .error (.argumentExpected op)
        else .ok (!a.isEmpty, args)
      | [a] => .ok (!a.isEmpty, args)
      | [] => .ok (false, [])

end

def decideAll (k : Kind) (args : List String) : Except ConditionFault Bool := do
  let (a, rest) ← disjunction c (8 * args.length + 8) k args
  match rest with
  | x :: _ :: _ => throw (.unexpectedOperator x)
  | _ => return a

/-- Decides a condition. A condition of three arguments with an operator in the middle compares;
otherwise brackets around it and a negation before it are taken away. -/
def decide? : Nat → List String → Except ConditionFault Bool
  | 0, _ => .ok false
  | n + 1, args =>
    if args.isEmpty then .ok false
    else if args.length = 3 ∧ binary.contains (args.getD 1 "") then decideAll c .operand args
    else if args.length = 3 ∨ args.length = 4 then
      if args.head? = some "(" ∧ args.getLast? = some ")" then
        decideAll c (kind (args.drop 1).dropLast) (args.drop 1).dropLast
      else if args.head? = some "!" then (decide? n (args.drop 1)).map (!·)
      else decideAll c (kind args) args
    else decideAll c (kind args) args

def holds (name : String) (args : List String) : Except ConditionFault Bool :=
  if name.toList.getLast? = some '[' then
    if args.getLast? = some "]" then decide? c args.length args.dropLast else .error .missingBracket
  else decide? c (args.length + 1) args

def decideFew : Nat → List String → Except String Bool
  | 0, _ => .ok false
  | n + 1, args =>
    let whole : Except String Bool :=
      (decideAll c (kind args) args).mapError ConditionFault.utilityMessage
    let worded (d : Except ConditionFault Bool) : Except String Bool :=
      d.mapError ConditionFault.utilityMessage
    let isUnary (op : String) : Bool := op.length = 2 && op.toList.head? = some '-'
    match args with
    | [] => .ok false
    | [a] => .ok (!a.isEmpty)
    | [op, a] =>
      if op = "!" then .ok a.isEmpty
      else if unary.contains op then worded (decideUnary c op a)
      else .error (if isUnary op then shownArgument op ++ ": unary operator expected"
        else "missing argument after " ++ shownArgument a)
    | [a, op, b] =>
      if binary.contains op then worded (decideBinary c a op b)
      else if op = "==" then .ok (a == b)
      else if a = "!" then (decideFew n [op, b]).map (!·)
      else if a = "(" ∧ b = ")" then .ok (!op.isEmpty)
      else if op = "-a" ∨ op = "-o" then whole
      else .error (shownArgument op ++ ": binary operator expected")
    | [a, x, y, b] =>
      if a = "!" then (decideFew n [x, y, b]).map (!·)
      else if a = "(" ∧ b = ")" then decideFew n [x, y]
      else whole
    | _ => whole

def utilityHolds (name : String) (args : List String) : Except String Bool :=
  if name.toList.getLast? = some '[' then
    if args.getLast? = some "]" then decideFew c args.length args.dropLast
    else .error ConditionFault.missingBracket.utilityMessage
  else decideFew c (args.length + 1) args

end Condition

end HostProbe.Posix
