import HostProbe.Posix.Bytes
import HostProbe.Posix.Command

/-! # Arithmetic of the shell language

Integer expressions of 64 bits with the operators and precedences of the C language. A name stands
for the number that its parameter holds, and an assignment gives it another one. What an operator
makes superfluous is read but has no effect. -/

namespace HostProbe.Posix.Arithmetic

inductive ArithmeticFault where
  | expectingPrimary
  | expectingEnd
  | expectingBracket
  | expectingColon
  | divisionByZero
  | notNumber (text : List Char)
  | refused (name : List Char)
  deriving DecidableEq, Repr

inductive SumToken where
  | number (n : Int)
  | name (s : List Char)
  | op (s : String)
  deriving DecidableEq, Repr

def wrap (n : Int) : Int := Int.bmod n 18446744073709551616

def clamp (n : Int) : Int :=
  if n < -9223372036854775808 then -9223372036854775808
  else if 9223372036854775807 < n then 9223372036854775807
  else n

def numeral (s : List Char) : Nat × List Char :=
  let decimal := (s.takeWhile Char.isDigit, s.dropWhile Char.isDigit)
  match s with
  | '0' :: x :: h :: rest =>
    if (x == 'x' || x == 'X') && isHex h then
      (digitsValue 16 ((h :: rest).takeWhile isHex), (h :: rest).dropWhile isHex)
    else (digitsValue 8 (s.takeWhile isOctal), s.dropWhile isOctal)
  | '0' :: _ => (digitsValue 8 (s.takeWhile isOctal), s.dropWhile isOctal)
  | _ => (digitsValue 10 decimal.1, decimal.2)

def valueOfText? (s : List Char) : Option Int :=
  let isGap (c : Char) : Bool := c == ' ' || (9 ≤ c.toNat && c.toNat ≤ 13)
  let t := s.dropWhile isGap
  let (negative, t) := match t with
    | '-' :: t => (true, t)
    | '+' :: t => (false, t)
    | t => (false, t)
  if t.head?.any Char.isDigit then
    let (n, rest) := numeral t
    if rest.all isGap then some (clamp (if negative then -(n : Int) else n)) else none
  else if s.all isGap then some 0 else none

def operators : List String :=
  ["<<=", ">>=", "<<", ">>", "<=", ">=", "==", "!=", "&&", "||", "*=", "/=", "%=", "+=", "-=",
    "&=", "^=", "|=", "<", ">", "=", "!", "&", "|", "^", "~", "*", "/", "%", "+", "-", "?", ":",
    "(", ")"]

def tokens : Nat → List Char → List SumToken
  | 0, _ => []
  | _ + 1, [] => []
  | n + 1, c :: s =>
    if c == ' ' || c == '\t' || c == '\n' then tokens n s
    else if c.isDigit then
      let (v, rest) := numeral (c :: s)
      .number (clamp v) :: tokens n rest
    else if isNameStart c then
      .name ((c :: s).takeWhile isNameChar) :: tokens n ((c :: s).dropWhile isNameChar)
    else match operators.find? fun op => op.toList.isPrefixOf (c :: s) with
      | some op => .op op :: tokens n ((c :: s).drop op.length)
      | none => .op (String.singleton c) :: tokens n s

def levels : List (List String) :=
  [["|"], ["^"], ["&"], ["==", "!="], ["<", "<=", ">", ">="], ["<<", ">>"], ["+", "-"],
    ["*", "/", "%"]]

def assignments : List (String × String) :=
  [("=", ""), ("*=", "*"), ("/=", "/"), ("%=", "%"), ("+=", "+"), ("-=", "-"), ("<<=", "<<"),
    (">>=", ">>"), ("&=", "&"), ("^=", "^"), ("|=", "|")]

def bits (n : Int) : UInt64 := Int64.toUInt64 (Int64.ofInt n)

def ofBits (n : UInt64) : Int := n.toInt64.toInt

def apply (op : String) (a b : Int) : Except ArithmeticFault Int :=
  let truth (p : Bool) : Except ArithmeticFault Int := .ok (if p then 1 else 0)
  match op with
  | "|" => .ok (ofBits (bits a ||| bits b))
  | "^" => .ok (ofBits (bits a ^^^ bits b))
  | "&" => .ok (ofBits (bits a &&& bits b))
  | "==" => truth (a == b)
  | "!=" => truth (a != b)
  | "<=" => truth (a ≤ b)
  | ">=" => truth (b ≤ a)
  | "<" => truth (a < b)
  | ">" => truth (b < a)
  | "<<" => .ok (ofBits (bits a <<< bits b))
  | ">>" => .ok (a >>> (b % 64).toNat)
  | "+" => .ok (wrap (a + b))
  | "-" => .ok (wrap (a - b))
  | "*" => .ok (wrap (a * b))
  | "/" => if b = 0 then .error .divisionByZero else .ok (wrap (a.tdiv b))
  | "%" => if b = 0 then .error .divisionByZero else .ok (a.tmod b)
  | _ => .ok b

structure Evaluation where
  rest : List SumToken
  assigned : List (List Char × Int) := []

structure Surroundings where
  value : List Char → Except ArithmeticFault Int
  assignable : List Char → Bool

abbrev Evaluates := StateT Evaluation (Except ArithmeticFault)

namespace Evaluates

def peek : Evaluates (Option SumToken) := do return (← get).rest.head?

def drop : Evaluates Unit := modify fun s => { s with rest := s.rest.tail }

def operator? (ops : List String) : Evaluates (Option String) := do
  match ← peek with
  | some (.op op) => return if ops.contains op then some op else none
  | _ => return none

def lookup (around : Surroundings) (name : List Char) : Evaluates Int := do
  match (← get).assigned.lookup name with
  | some n => return n
  | none => fun s => (around.value name).map (·, s)

mutual

def assignment (around : Surroundings) (idle : Bool) : Nat → Evaluates Int
  | 0 => throw .expectingPrimary
  | n + 1 => do
    match (← get).rest with
    | .name name :: .op op :: rest =>
      match assignments.lookup op with
      | none => conditional around idle n
      | some first => do
        modify fun s => { s with rest }
        let value ← assignment around idle n
        if idle then return value
        let old ← if first = "" then pure 0 else lookup around name
        let value ← fun s => (apply first old value).map (·, s)
        if around.assignable name then
          modify fun s => { s with assigned := (name, value) :: s.assigned }
          return value
        else throw (.refused name)
    | _ => conditional around idle n

def conditional (around : Surroundings) (idle : Bool) : Nat → Evaluates Int
  | 0 => throw .expectingPrimary
  | n + 1 => do
    let a ← disjunction around idle n
    if (← operator? ["?"]).isNone then return a
    drop
    let b ← assignment around (idle || a = 0) n
    if (← operator? [":"]).isNone then throw .expectingColon
    drop
    let c ← conditional around (idle || a ≠ 0) n
    return if a ≠ 0 then b else c

def disjunction (around : Surroundings) (idle : Bool) : Nat → Evaluates Int
  | 0 => throw .expectingPrimary
  | n + 1 => do
    let a ← conjunction around idle n
    if (← operator? ["||"]).isNone then return a
    drop
    let b ← disjunction around (idle || a ≠ 0) n
    return if a ≠ 0 || b ≠ 0 then 1 else 0

def conjunction (around : Surroundings) (idle : Bool) : Nat → Evaluates Int
  | 0 => throw .expectingPrimary
  | n + 1 => do
    let a ← binary around idle levels n
    if (← operator? ["&&"]).isNone then return a
    drop
    let b ← conjunction around (idle || a = 0) n
    return if a ≠ 0 && b ≠ 0 then 1 else 0

def binary (around : Surroundings) (idle : Bool) (ls : List (List String)) : Nat → Evaluates Int
  | 0 => throw .expectingPrimary
  | n + 1 => do
    match ls with
    | [] => primary around idle n
    | ops :: tighter => chain around idle ops tighter (← binary around idle tighter n) n

def chain (around : Surroundings) (idle : Bool) (ops : List String) (tighter : List (List String))
    (a : Int) : Nat → Evaluates Int
  | 0 => throw .expectingPrimary
  | n + 1 => do
    match ← operator? ops with
    | none => return a
    | some op => do
      drop
      let b ← binary around idle tighter n
      let c ← if idle then pure b else fun s => (apply op a b).map (·, s)
      chain around idle ops tighter c n

def primary (around : Surroundings) (idle : Bool) : Nat → Evaluates Int
  | 0 => throw .expectingPrimary
  | n + 1 => do
    match ← peek with
    | some (.number v) => do
      drop
      return v
    | some (.name s) => do
      drop
      if idle then return 0 else lookup around s
    | some (.op "(") => do
      drop
      let a ← assignment around idle n
      if (← operator? [")"]).isNone then throw .expectingBracket
      drop
      return a
    | some (.op "+") => do
      drop
      primary around idle n
    | some (.op "-") => do
      drop
      return wrap (-(← primary around idle n))
    | some (.op "!") => do
      drop
      return if (← primary around idle n) = 0 then 1 else 0
    | some (.op "~") => do
      drop
      return -(← primary around idle n) - 1
    | _ => throw .expectingPrimary

end

end Evaluates

/-- The value of an expression and the parameters that it assigns, the first one first. What was
assigned before a fault stays assigned. -/
def evaluate (around : Surroundings) (s : List Char) :
    Except ArithmeticFault (Int × List (List Char × Int)) := do
  let ts := tokens (s.length + 1) s
  let (v, e) ← (Evaluates.assignment around false (20 * ts.length + 40)).run { rest := ts }
  if e.rest.isEmpty then return (v, e.assigned.reverse) else throw .expectingEnd

end HostProbe.Posix.Arithmetic
