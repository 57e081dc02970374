import HostProbe.Posix.Command

/-! # Reading scripts

A script is read line by line: a line is read as far as its commands reach and run before the next
one is read. Where a line ends with an open command, the lines after it belong to it.

A backslash before a line end joins two lines. The text that a command gets after its line is read
when the line ends. All readers are given as much fuel as the script can need. -/

namespace HostProbe.Posix

inductive ScriptFault where
  | unclosedQuote
  | unclosedBackquote
  | unclosedBrace
  | unclosedSum
  | badFunctionName
  | badLoopName
  | unexpected (what : String) (instead : Option String)
  deriving DecidableEq, Repr

def ScriptFault.message : ScriptFault → String
  | .unclosedQuote => "Syntax error: Unterminated quoted string"
  | .unclosedBackquote => "Syntax error: EOF in backquote substitution"
  | .unclosedBrace => "Syntax error: Missing \x27\x7d\x27"
  | .unclosedSum => "Syntax error: Missing \x27))\x27"
  | .badFunctionName => "Syntax error: Bad function name"
  | .badLoopName => "Syntax error: Bad for loop variable"
  | .unexpected what none => "Syntax error: " ++ what ++ " unexpected"
  | .unexpected what (some instead) =>
    "Syntax error: " ++ what ++ " unexpected (expecting " ++ instead ++ ")"

structure FaultyLine where
  line : Nat
  fault : ScriptFault
  deriving Repr

inductive RedirectSign where
  | file (mode : OpenMode)
  | copy
  | document (strip : Bool)
  deriving DecidableEq, Repr

inductive Token where
  | newline
  | finished
  | sign (s : String)
  | reserved (s : String)
  | redirect (channel : Nat) (sign : RedirectSign)
  | word (w : Word)
  deriving Inhabited

structure PendingDocument where
  number : Nat
  mark : List Char
  quoted : Bool
  strip : Bool

structure Source where
  rest : List Char
  line : Nat := 1
  pushed : Option Token := none
  pending : List PendingDocument := []
  documents : List (Nat × Word) := []
  nextDocument : Nat := 0
  aliases : List (String × List Char) := []
  busy : List (String × Nat) := []

structure Lookout where
  lines : Bool := false
  reserved : Bool := false
  aliases : Bool := false

namespace Lookout

def command : Lookout := ⟨true, true, true⟩

end Lookout

abbrev Reads := StateT Source (Except FaultyLine)

def reservedWords : List String :=
  ["!", "case", "do", "done", "elif", "else", "esac", "fi", "for", "if", "in", "then", "until",
    "while", "\x7b", "\x7d"]

namespace Token

def shown : Token → String
  | .newline => "newline"
  | .finished => "end of file"
  | .sign s => "\"" ++ s ++ "\""
  | .reserved s => "\"" ++ s ++ "\""
  | .redirect .. => "redirection"
  | .word _ => "word"

def endsList : Token → Bool
  | .finished => true
  | .sign s => [")", ";;"].contains s
  | .reserved s => ["do", "done", "elif", "else", "esac", "fi", "then", "\x7d"].contains s
  | _ => false

def isSign (s : String) : Token → Bool
  | .sign t => s == t
  | _ => false

def isReserved (s : String) : Token → Bool
  | .reserved t => s == t
  | _ => false

def isNewline : Token → Bool
  | .newline => true
  | _ => false

end Token

inductive ListKind where
  | line
  | body
  | possiblyEmpty
  deriving DecidableEq

inductive QuotedEnd where
  | quote
  | brace (inQuotes : Bool)
  | sum (depth : Nat)
  | document
  deriving DecidableEq

namespace Reads

def refuse {α : Type} (f : ScriptFault) : Reads α := fun s => .error ⟨s.line, f⟩

def unexpected {α : Type} (t : Token) (instead : Option Token := none) : Reads α :=
  refuse (.unexpected t.shown (instead.map Token.shown))

def pastJoins : List Char → Nat → List Char × Nat
  | '\\' :: '\n' :: s, line => pastJoins s (line + 1)
  | s, line => (s, line)

def pastBlanks : List Char → Nat → List Char × Nat
  | '\\' :: '\n' :: s, line => pastBlanks s (line + 1)
  | ' ' :: s, line => pastBlanks s line
  | '\t' :: s, line => pastBlanks s line
  | '#' :: s, line => (s.dropWhile (· != '\n'), line)
  | s, line => (s, line)

def peek : Reads (Option Char) := do
  let s ← get
  let (rest, line) := pastJoins s.rest s.line
  set { s with rest, line }
  return rest.head?

def take : Reads (Option Char) := do
  let s ← get
  match s.rest with
  | [] => return none
  | c :: rest =>
    set { s with rest, line := if c = '\n' then s.line + 1 else s.line }
    return some c

def drop : Reads Unit := do let _ ← take

def dropIf (c : Char) : Reads Bool := do
  if (← peek) = some c then
    drop
    return true
  else return false

def takeWhile (p : Char → Bool) : Reads (List Char) := do
  let s ← get
  set { s with rest := s.rest.dropWhile p }
  return s.rest.takeWhile p

def takeName (p : Char → Bool) : Nat → Reads (List Char)
  | 0 => return []
  | n + 1 => do
    match ← peek with
    | some c =>
      if p c then
        drop
        return c :: (← takeName p n)
      else return []
    | none => return []

def singleQuoted : Reads (List Char) := do
  let s ← get
  let text := s.rest.takeWhile (· != '\x27')
  match s.rest.drop text.length with
  | [] => fun s => .error ⟨s.line + text.count '\n', .unclosedQuote⟩
  | _ :: rest => do
    set { s with rest, line := s.line + text.count '\n' }
    return text

def backquotedText (inQuotes : Bool) : Nat → Reads (List Char)
  | 0 => refuse .unclosedBackquote
  | n + 1 => do
    let _ ← peek
    match ← take with
    | none => refuse .unclosedBackquote
    | some '\x60' => return []
    | some '\\' => do
      match ← take with
      | none => refuse .unclosedBackquote
      | some c =>
        let escapes := c == '\\' || c == '\x60' || c == '$' || (inQuotes && c == '"')
        return (if escapes then [c] else ['\\', c]) ++ (← backquotedText inQuotes n)
    | some c => return c :: (← backquotedText inQuotes n)

def endsWord (c : Char) : Bool := " \t\n;&|<>()".toList.contains c

def isOrdinary (c : Char) : Bool := !("\\\x27\"$\x60\x7d".toList.contains c || endsWord c)

def within {α : Type} (text : List Char) (line : Nat) (a : Reads α) : Reads α := do
  let s ← get
  set { s with rest := text, line, pushed := none, pending := [], busy := [] }
  let r ← a
  modify fun t =>
    { t with rest := s.rest, line := s.line, pushed := none, pending := s.pending, busy := s.busy }
  return r

def unread (t : Token) : Reads Unit := modify fun s => { s with pushed := some t }

def joinParts : Word → Word → Word
  | [.text s false], .text t false :: w => .text (s ++ t) false :: w
  | front, w => front ++ w

def documentMark : Nat → Reads (List Char × Bool)
  | 0 => return ([], false)
  | n + 1 => do
    match ← peek with
    | none => return ([], false)
    | some c =>
      if endsWord c then return ([], false)
      else do
        drop
        let (front, quoted) ← (match c with
          | '\x27' => do return (← singleQuoted, true)
          | '"' => do
            let text ← takeWhile (· != '"')
            if (← take) = none then refuse .unclosedQuote
            return (text, true)
          | '\\' => do return ((← take).toList, true)
          | c => return ([c], false) : Reads (List Char × Bool))
        let (s, more) ← documentMark n
        return (front ++ s, quoted || more)

def documentLine (joins : Bool) : List Char → List Char
  | [] => []
  | '\\' :: c :: s => if joins then '\\' :: c :: documentLine joins s
    else if c = '\n' then ['\\', '\n'] else '\\' :: documentLine joins (c :: s)
  | c :: s => if c = '\n' then ['\n'] else c :: documentLine joins s

def documentText (d : PendingDocument) : Nat → List Char → List Char × List Char
  | 0, s => ([], s)
  | n + 1, s =>
    let s := if d.strip then s.dropWhile (· == '\t') else s
    if s = [] then ([], [])
    else
      let line := documentLine (!d.quoted) s
      let rest := s.drop line.length
      if line = d.mark ∨ line = d.mark ++ ['\n'] then ([], rest)
      else
        let (more, rest) := documentText d n rest
        (line ++ more, rest)

def redirectSign (first : Char) : Reads (Nat × RedirectSign) := do
  if first = '>' then
    if ← dropIf '>' then return (1, .file .append)
    else if ← dropIf '|' then return (1, .file .force)
    else if ← dropIf '&' then return (1, .copy)
    else return (1, .file .write)
  else if ← dropIf '<' then return (0, .document (← dropIf '-'))
  else if ← dropIf '&' then return (0, .copy)
  else if ← dropIf '>' then return (0, .file .readWrite)
  else return (0, .file .read)

mutual

def bare (braced : Bool) : Nat → Reads Word
  | 0 => refuse .unclosedBrace
  | n + 1 => do
    match ← peek with
    | none => if braced then refuse .unclosedBrace else return []
    | some c =>
      if !braced && endsWord c then return []
      else if braced && c == '\x7d' then do
        drop
        return []
      else
        let front ← (match c with
          | '\\' => do
            drop
            return [.text [(← take).getD '\\'] true]
          | '\x27' => do
            drop
            return [.text (← singleQuoted) true]
          | '"' => do
            drop
            let w ← doubled .quote n
            return if Word.isAllArguments w then w else .text [] true :: w
          | '$' => do
            drop
            return [← dollar none n]
          | '\x60' => do
            drop
            return [← backquoted false n]
          | _ => do
            if isOrdinary c then return [.text (← takeWhile isOrdinary) false]
            else do
              drop
              return [.text [c] false] : Reads Word)
        return joinParts front (← bare braced n)

def doubled (e : QuotedEnd) : Nat → Reads Word
  | 0 => refuse .unclosedQuote
  | n + 1 => do
    match ← peek, e with
    | none, .document => return []
    | none, .sum _ => refuse .unclosedSum
    | none, _ => refuse .unclosedQuote
    | some '"', .quote => do
      drop
      return []
    | some '"', .brace inQuotes => do
      drop
      return .text [] true :: (← doubled (.brace !inQuotes) n)
    | some '"', .sum depth => do
      drop
      doubled (.sum depth) n
    | some '\x7d', .brace false => do
      drop
      return []
    | some '(', .sum depth => do
      drop
      return .text ['('] true :: (← doubled (.sum (depth + 1)) n)
    | some ')', .sum (depth + 1) => do
      drop
      return .text [')'] true :: (← doubled (.sum depth) n)
    | some ')', .sum 0 => do
      drop
      if ← dropIf ')' then return []
      else return .text [')'] true :: (← doubled (.sum 0) n)
    | some '\\', _ => do
      drop
      let part ← (do
        match ← take with
        | none => return .text ['\\'] true
        | some c =>
          let escapes := c == '\\' || c == '\x60' || c == '$' ||
            (c == '"' && e ≠ .document) || (c == '\x7d' && e = .brace false)
          return .text (if escapes then [c] else ['\\', c]) true : Reads Part)
      return part :: (← doubled e n)
    | some '$', _ => do
      drop
      let part ← dollar (some e) n
      return part :: (← doubled e n)
    | some '\x60', _ => do
      drop
      let part ← backquoted true n
      return part :: (← doubled e n)
    | some c, _ => do
      drop
      let more ← takeWhile fun c => c.isAlphanum || c == ' '
      return .text (c :: more) true :: (← doubled e n)

def dollar (around : Option QuotedEnd) : Nat → Reads Part
  | 0 => refuse .unclosedBrace
  | n + 1 => do
    let quoted := around.isSome
    match ← peek with
    | some '(' => do
      drop
      if ← dropIf '(' then return .arithmetic (← doubled (.sum 0) n) quoted
      else do
        let pending := (← get).pending
        modify fun s => { s with pending := [] }
        let body ← list .possiblyEmpty none n
        let t ← token {} n
        if t.isSign ")" then do
          emptyDocuments
          modify fun s => { s with pending }
          return .output (body.getD .nothing) quoted
        else unexpected t (some (.sign ")"))
    | some '\x7b' => do
      drop
      braced around n
    | some c =>
      if isNameStart c then return .parameter (← takeName isNameChar n) .plain quoted
      else if c.isDigit || isSpecialName c then do
        drop
        return .parameter [c] .plain quoted
      else return .text ['$'] quoted
    | none => return .text ['$'] quoted

def braced (around : Option QuotedEnd) : Nat → Reads Part
  | 0 => refuse .unclosedBrace
  | n + 1 => do
    let quoted := around.isSome
    let body (pattern : Bool) : Reads Word :=
      if pattern || !quoted then bare true n else doubled (.brace false) n
    let malformed : Reads Part := do
      let _ ← body false
      return .parameter [] .malformed quoted
    let named : Reads (Option (List Char)) := do
      match ← peek with
      | some c =>
        if isNameStart c then return some (← takeName isNameChar n)
        else if c.isDigit then return some (← takeName Char.isDigit n)
        else return none
      | none => return none
    let used (name : List Char) : Reads Part := do
      let orEmpty ← dropIf ':'
      match ← peek with
      | some '\x7d' => do
        drop
        if orEmpty then
          let _ ← body false
        return .parameter name .plain quoted
      | some '-' => do
        drop
        return .parameter name (.default orEmpty (← body false)) quoted
      | some '=' => do
        drop
        return .parameter name (.assign orEmpty (← body false)) quoted
      | some '+' => do
        drop
        return .parameter name (.alternative orEmpty (← body false)) quoted
      | some '?' => do
        drop
        return .parameter name (.require orEmpty (← body false)) quoted
      | some c =>
        if !orEmpty && (c == '%' || c == '#') then do
          drop
          let longest ← dropIf c
          return .parameter name (.trim (c == '%') longest (← body true)) quoted
        else do
          drop
          malformed
      | none => malformed
    let lengthOf (name : List Char) : Reads Part := do
      if ← dropIf '\x7d' then return .parameter name .length quoted else malformed
    match ← named with
    | some name => used name
    | none =>
      match ← peek with
      | some '#' => do
        drop
        match ← named with
        | some name => lengthOf name
        | none =>
          let s ← get
          match s.rest with
          | c :: '\x7d' :: _ =>
            if c != '\x7d' && isSpecialName c then do
              drop
              lengthOf [c]
            else used ['#']
          | _ => used ['#']
      | some c =>
        if isSpecialName c then do
          drop
          used [c]
        else malformed
      | none => malformed

def backquoted (quoted : Bool) : Nat → Reads Part
  | 0 => refuse .unclosedBackquote
  | n + 1 => do
    let text ← backquotedText quoted ((← get).rest.length + 1)
    let body ← within text 1 (list .possiblyEmpty none n)
    return .output (body.getD .nothing) quoted

def readDocuments : Nat → Reads Unit
  | 0 => return
  | n + 1 => do
    match (← get).pending with
    | [] => return
    | d :: rest => do
      let s ← get
      let (text, after) := documentText d (s.rest.length + 1) s.rest
      set { s with pending := rest, rest := after
                   line := s.line + (s.rest.take (s.rest.length - after.length)).count '\n' }
      let w ← if d.quoted then pure [.text text true]
        else within text s.line (doubled .document n)
      modify fun s => { s with documents := (d.number, w) :: s.documents }
      readDocuments n

def emptyDocuments : Reads Unit :=
  modify fun s =>
    { s with pending := [], documents := s.pending.map (fun d => (d.number, [])) ++ s.documents }

def token (l : Lookout) : Nat → Reads Token
  | 0 => refuse .unclosedQuote
  | n + 1 => do
    let t ← freshToken n
    match t with
    | .newline =>
      if l.lines then do
        readDocuments n
        token l n
      else return .newline
    | .word w =>
      match Word.plain? w with
      | none => return t
      | some s =>
        let name := String.ofList s
        if l.reserved && reservedWords.contains name then return .reserved name
        else
          let source ← get
          match source.aliases.lookup name with
          | some text =>
            let busy := source.busy.filter fun b => b.2 < source.rest.length
            if l.aliases && !(busy.any (·.1 == name)) then do
              set { source with
                rest := text ++ source.rest
                busy := (name, source.rest.length) :: busy }
              token l n
            else return t
          | none => return t
    | t => return t

def freshToken : Nat → Reads Token
  | 0 => refuse .unclosedQuote
  | n + 1 => do
    let s ← get
    match s.pushed with
    | some t => do
      set { s with pushed := none }
      return t
    | none => do
      let (rest, line) := pastBlanks s.rest s.line
      set { s with rest, line }
      let doubledSign (c : Char) : Reads Token := do
        if ← dropIf c then return .sign (String.ofList [c, c]) else return .sign (String.singleton c)
      match rest with
      | [] => return .finished
      | '\n' :: _ => do
        drop
        return .newline
      | c :: _ =>
        if c == '&' || c == '|' || c == ';' then do
          drop
          doubledSign c
        else if c == '(' || c == ')' then do
          drop
          return .sign (String.singleton c)
        else do
          let w ← bare false n
          let next ← peek
          if next = some '<' ∨ next = some '>' then
            let channel? : Option (Option Nat) := match w with
              | [] => some none
              | [.text [d] false] => if d.isDigit then some (some (d.toNat - 48)) else none
              | _ => none
            match channel? with
            | some channel => do
              drop
              let (standard, sign) ← redirectSign (next.getD '>')
              return .redirect (channel.getD standard) sign
            | none => return .word w
          else return .word w

def redirectTo (channel : Nat) (sign : RedirectSign) : Nat → Reads Redirect
  | 0 => refuse .unclosedQuote
  | n + 1 => do
    match sign with
    | .document strip => do
      let s ← get
      let (rest, line) := pastBlanks s.rest s.line
      set { s with rest, line }
      if rest.head?.all endsWord then unexpected (← freshToken n)
      else
        let (mark, quoted) ← documentMark ((← get).rest.length + 1)
        let number := (← get).nextDocument
        modify fun s => { s with
          pending := s.pending ++ [⟨number, mark, quoted, strip⟩], nextDocument := number + 1 }
        return .document channel number
    | .copy => do
      match ← token {} n with
      | .word w => return .copy channel w
      | t => unexpected t
    | .file mode => do
      match ← token {} n with
      | .word w => return .file channel mode w
      | t => unexpected t

def redirects : Nat → Reads (List Redirect)
  | 0 => return []
  | n + 1 => do
    match ← token ⟨false, true, true⟩ n with
    | .redirect channel sign => do
      let r ← redirectTo channel sign n
      return r :: (← redirects n)
    | t => do
      unread t
      return []

def list (kind : ListKind) (before : Option Command) : Nat → Reads (Option Command)
  | 0 => refuse .unclosedQuote
  | n + 1 => do
    match ← token ⟨kind ≠ .line, true, true⟩ n with
    | .newline => do
      readDocuments n
      return before
    | .finished => do
      emptyDocuments
      unread .finished
      return before
    | t => do
      unread t
      if t.endsList && (kind = .possiblyEmpty || (kind = .body && before.isSome)) then
        return before
      let c ← andOr n
      let t ← token {} n
      let c := if t.isSign "&" then inBackground c else c
      let all := some (match before with
        | some b => .sequence b c
        | none => c)
      match t with
      | .finished => do
        emptyDocuments
        unread .finished
        return all
      | .newline => do
        unread t
        list kind all n
      | .sign s =>
        if s == "&" || s == ";" then list kind all n
        else if kind = .line then unexpected t
        else do
          unread t
          return all
      | t =>
        if kind = .line then unexpected t
        else do
          unread t
          return all
where
  inBackground : Command → Command
    | .redirected line c rs => .background line c rs
    | c => .background 0 c []

def andOr : Nat → Reads Command
  | 0 => refuse .unclosedQuote
  | n + 1 => do andOrAfter (← pipeline {} n) n

def andOrAfter (c : Command) : Nat → Reads Command
  | 0 => refuse .unclosedQuote
  | n + 1 => do
    match ← token {} n with
    | .sign "&&" => do andOrAfter (.both c (← pipeline .command n)) n
    | .sign "||" => do andOrAfter (.either c (← pipeline .command n)) n
    | t => do
      unread t
      return c

def pipeline (l : Lookout) : Nat → Reads Command
  | 0 => refuse .unclosedQuote
  | n + 1 => do
    let t ← token l n
    if t.isReserved "!" then return .negated (← pipes ⟨false, true, true⟩ n)
    else do
      unread t
      pipes {} n

def pipes (l : Lookout) : Nat → Reads Command
  | 0 => refuse .unclosedQuote
  | n + 1 => do
    let c ← command l n
    match ← morePipes n with
    | [] => return c
    | cs => return .pipe (c :: cs)

def morePipes : Nat → Reads (List Command)
  | 0 => refuse .unclosedQuote
  | n + 1 => do
    let t ← token {} n
    if t.isSign "|" then
      let c ← command .command n
      return c :: (← morePipes n)
    else do
      unread t
      return []

def command (l : Lookout) : Nat → Reads Command
  | 0 => refuse .unclosedQuote
  | n + 1 => do
    let line := (← get).line
    let body : Reads Command := do return (← list .body none n).getD .nothing
    let close (t : Token) (same : Token → Bool) : Reads Unit := do
      let u ← token {} n
      if same u then return else unexpected u (some t)
    let closeWith (word : String) : Reads Unit := close (.reserved word) (·.isReserved word)
    let redirecting (c : Command) : Reads Command := do
      let rs ← redirects n
      return match rs with
        | [] => c
        | rs => .redirected line c rs
    match ← token l n with
    | .reserved "if" => do redirecting (← conditional n)
    | .reserved "while" => do
      let condition ← body
      closeWith "do"
      let c ← body
      closeWith "done"
      redirecting (.loop false condition c)
    | .reserved "until" => do
      let condition ← body
      closeWith "do"
      let c ← body
      closeWith "done"
      redirecting (.loop true condition c)
    | .reserved "for" => do
      let name ← (do
        match ← token {} n with
        | .word w => match Word.plain? w with
          | some name => if isName name then return name else refuse .badLoopName
          | none => refuse .badLoopName
        | _ => refuse .badLoopName : Reads (List Char))
      let t ← token .command n
      let words ← (do
        if t.isReserved "in" then do
          let (words, t) ← forWords n
          if t.isNewline || t.isSign ";" then return words else unexpected t
        else do
          if !(t.isSign ";") then unread t
          return [[.parameter ['@'] .plain true]] : Reads (List Word))
      let t ← token .command n
      if !(t.isReserved "do") then unexpected t (some (.reserved "do"))
      let c ← body
      closeWith "done"
      redirecting (.forEach line name words c)
    | .reserved "case" => do
      match ← token {} n with
      | .word w => do
        let t ← token .command n
        if !(t.isReserved "in") then unexpected t (some (.reserved "in"))
        let cases ← selections n
        redirecting (.select line w cases)
      | t => unexpected t (some (.word []))
    | .sign "(" => do
      let c ← body
      close (.sign ")") (·.isSign ")")
      let rs ← redirects n
      return .subshell line c rs
    | .reserved "\x7b" => do
      let c ← body
      closeWith "\x7d"
      redirecting c
    | .word w => do
      unread (.word w)
      simple line true [] [] [] n
    | .redirect channel sign => do
      unread (.redirect channel sign)
      simple line true [] [] [] n
    | t => unexpected t

def forWords : Nat → Reads (List Word × Token)
  | 0 => refuse .unclosedQuote
  | n + 1 => do
    match ← token {} n with
    | .word w => do
      let (ws, t) ← forWords n
      return (w :: ws, t)
    | t => return ([], t)

def conditional : Nat → Reads Command
  | 0 => refuse .unclosedQuote
  | n + 1 => do
    let condition := (← list .body none n).getD .nothing
    let t ← token {} n
    if !(t.isReserved "then") then unexpected t (some (.reserved "then"))
    let yes := (← list .body none n).getD .nothing
    match ← token {} n with
    | .reserved "elif" => do return .choice condition yes (← conditional n)
    | .reserved "else" => do
      let no := (← list .body none n).getD .nothing
      let t ← token {} n
      if t.isReserved "fi" then return .choice condition yes no
      else unexpected t (some (.reserved "fi"))
    | .reserved "fi" => return .choice condition yes .nothing
    | t => unexpected t (some (.reserved "fi"))

def selections : Nat → Reads (List (List Word × Command))
  | 0 => refuse .unclosedQuote
  | n + 1 => do
    let t ← token ⟨true, true, false⟩ n
    if t.isReserved "esac" then return []
    else do
      let t ← if t.isSign "(" then token {} n else pure t
      let patterns ← alternatives t n
      let c := (← list .possiblyEmpty none n).getD .nothing
      let t ← token ⟨true, true, false⟩ n
      if t.isReserved "esac" then return [(patterns, c)]
      else if t.isSign ";;" then return (patterns, c) :: (← selections n)
      else unexpected t (some (.sign ";;"))

def alternatives (t : Token) : Nat → Reads (List Word)
  | 0 => refuse .unclosedQuote
  | n + 1 => do
    let w : Word := match t with
      | .word w => w
      | .reserved s => [.text s.toList false]
      | _ => []
    let t ← token {} n
    if t.isSign "|" then return w :: (← alternatives (← token {} n) n)
    else if t.isSign ")" then return [w]
    else unexpected t (some (.sign ")"))

def simple (line : Nat) (first : Bool) (assignments : List (List Char × Word)) (words : List Word)
    (rs : List Redirect) : Nat → Reads Command
  | 0 => refuse .unclosedQuote
  | n + 1 => do
    match ← token ⟨false, false, first⟩ n with
    | .word w =>
      match if first then Word.assignment? w else none with
      | some a => simple line first (assignments ++ [a]) words rs n
      | none => simple line false assignments (words ++ [w]) rs n
    | .redirect channel sign => do
      let r ← redirectTo channel sign n
      simple line first assignments words (rs ++ [r]) n
    | t =>
      if let (true, [], [w], []) := (t.isSign "(", assignments, words, rs) then do
        let u ← token {} n
        if !(u.isSign ")") then unexpected u (some (.sign ")"))
        match Word.plain? w with
        | some name =>
          if isName name && !(specialCommands.contains (String.ofList name)) then do
            let at_ := (← get).line
            return .define at_ name (← command .command n)
          else refuse .badFunctionName
        | none => refuse .badFunctionName
      else do
        unread t
        return .simple line assignments words rs
where
  specialCommands : List String :=
    [".", ":", "break", "continue", "eval", "exec", "exit", "export", "readonly", "return", "set",
      "shift", "times", "trap", "unset"]

end

def nextLine : Reads (Option Command) := do
  modify fun s => { s with pushed := none, pending := [] }
  let n := 40 * (← get).rest.length + 400
  match ← list .line none n with
  | some c => return some c
  | none => return match (← get).pushed with
    | some _ => none
    | none => some .nothing

end Reads

end HostProbe.Posix
