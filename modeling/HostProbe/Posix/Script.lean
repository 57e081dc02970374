import HostProbe.Posix.Builtin
import HostProbe.Posix.Utility

/-! # Running scripts

A script runs line by line on the state of a shell. A part that runs in a shell of its own leaves
nothing behind but what all shells share. The parts of a pipe run one after another, each one with
what the one before has written; their times overlap.

A command is `tested` where its failure only decides what runs next. -/

namespace HostProbe.Posix

namespace Script

def stepLimit : Nat := 60000

def callLimit : Nat := 1000

def iterate {α β : Type} (step : α → ShellM (α ⊕ β)) : Nat → α → ShellM β
  | 0, _ => throw .endless
  | n + 1, a => do
    match ← step a with
    | .inl a => iterate step n a
    | .inr b => return b

inductive Route where
  | file (channel : Nat) (mode : OpenMode) (path : String)
  | copy (channel : Nat) (source : String)
  | content (channel : Nat) (text : List Char)

def openFault (mode : OpenMode) (path : String) (why : Option String) : String :=
  (if mode = .read then "cannot open " else "cannot create ") ++ path ++ ": " ++
    why.getD (if mode = .read then "No such file" else "Directory nonexistent")

def connect (channel : Nat) (e : Option Endpoint) : ShellM Unit :=
  modify fun s => { s with channels := s.channels.connect channel e }

def channelOf? (path : String) : Option Nat :=
  match path with
  | "/dev/stdin" => some 0
  | "/dev/stdout" => some 1
  | "/dev/stderr" => some 2
  | _ => if "/dev/fd/".toList.isPrefixOf path.toList then natOf? (path.toList.drop 8) else none

def openFile (channel : Nat) (mode : OpenMode) (path : String) : ShellM Unit := do
  let s ← get
  let files := s.world.files
  let put (place : Place) (e : Entry) : ShellM Unit := do
    modifyWorld fun w => { w with files := w.files.set place (some e) }
    connect channel (some (.file place true))
  match channelOf? path with
  | some n => match s.channel? n with
    | some e => connect channel (some e)
    | none => fail (openFault mode path none)
  | none =>
    match files.resolve s.dir path with
    | .error _ => fail (openFault mode path none)
    | .ok place =>
      match files.get? place, mode with
      | some (.device d), _ => connect channel (some (.device d))
      | some .dir, .read => connect channel (some (.file place false))
      | some .dir, _ => fail (openFault mode path (some "Is a directory"))
      | some (.file content _), .read => do
        connect channel (some (.pipe (← newPipe content true)))
      | some .program, .read => do connect channel (some (.pipe (← newPipe [] true)))
      | some .program, _ => fail (openFault mode path (some "Text file busy"))
      | none, .read => fail (openFault mode path none)
      | some (.file ..), .append => connect channel (some (.file place true))
      | some (.file ..), .readWrite => connect channel (some (.file place true))
      | some (.file _ m), mode =>
        if mode = .write ∧ s.has 'C' then fail (openFault mode path (some "File exists"))
        else put place (.file [] m)
      | none, mode =>
        if files.get? place.dropLast = some .dir then put place (.file [] (0o666 &&& (511 - s.mask)))
        else fail (openFault mode path none)

def follow (r : Route) : ShellM Unit := do
  match r with
  | .file channel mode path => openFile channel mode path
  | .content channel text => do connect channel (some (.pipe (← newPipe text false)))
  | .copy channel source =>
    if source = "-" then connect channel none
    else match (← get).channel? (digitsValue 10 source.toList) with
      | some e => connect channel (some e)
      | none => fail (source ++ ": Bad file descriptor")

def followAll (rs : List Route) : ShellM Bool :=
  tryCatch (do
    for r in rs do follow r
    return true) fun
    | .failed => return false
    | h => throw h

def keepingChannels {α : Type} (a : ShellM α) : ShellM α := do
  let channels := (← get).channels
  tryFinally a (modify fun s => { s with channels })

def within {α : Type} (name : String) (a : ShellM α) : ShellM α := do
  let command := (← get).command
  modify fun s => { s with command := some name }
  tryFinally a (modify fun s => { s with command })

def sayResult (name : String) (r : Builtin.Output) : ShellM Nat := do
  if r.1.isEmpty then return r.2
  if ← writeTo 1 r.1 then return r.2
  complain (name ++ ": I/O error")
  return r.2 ||| 1

def invocation (s : ShellState) (name : String) (args : List String) : Invocation :=
  { name, args, input := s.input 0, endless := s.channel? 0 = some (.device .zero)
    inputIsFile := s.inputIsFile 0, inputIsClosed := (s.channel? 0).isNone
    outputIsClosed := (s.channel? 1).isNone, env := s.env
    dir := physical "/" s.dir, files := s.world.files, mask := s.mask }

def passFor (ms : Nat) : ShellM Unit := do
  if ms = 0 then return
  let w := (← get).world
  let held := (← get).channels.holdOutput
  modifyWorld fun w => if held && w.current.isSome then
    { w with
      heldUntil := max w.heldUntil (w.clock + ms)
      children := if w.released.isNone then (w.clock, w.clock + ms) :: w.children else w.children }
    else w
  passTo (w.clock + ms)

def carryOut (name : String) (e : Effect) : ShellM Nat := do
  if e.input ≠ .nothing then
    let s ← get
    takeFrom 0 (s.input 0).length (e.input = .all)
  let mut status := e.status
  for (isError, text) in e.writes do
    if !(← writeTo (if isError then 2 else 1) text) then
      let why := if (← get).channel? 1 = some (.device .full) then "No space left on device"
        else "Bad file descriptor"
      let _ ← writeTo 2 (lineOf (name ++ ": write error: " ++ why))
      status := 1
  match e.files with
  | some files => modifyWorld fun w => { w with files }
  | none => pure ()
  passFor e.ms
  if e.endless then throw .endless
  return status

def inheritedTraps (s : ShellState) : List (String × String) := s.traps.filter (·.2.isEmpty)

def restore (s : ShellState) : ShellM Unit := modify fun t => { s with world := t.world }

def inheritedDir (env : List (String × String)) (dir : String) : String :=
  match env.lookup "PWD" with
  | some pwd =>
    if isAbsolute pwd && physical "/" pwd = physical "/" dir then pwd else physical "/" dir
  | none => physical "/" dir

def inheritedBindings (env : List (String × String)) (dir : String) : List (String × Binding) :=
  let named := env.filter fun (name, _) => isName name.toList && name != "IFS"
  let given (name value : String) : String × Binding := (name, { value := some value })
  let base := [given "OPTIND" "1", given "PPID" "4241", given "PS1" "# ", given "PS2" "> ",
    given "PS4" "+ ", given "IFS" " \t\n", given "PATH" "/usr/local/sbin:/usr/local/bin:/usr/sbin:/usr/bin:/sbin:/bin"]
  (((named ++ [("PWD", dir)]).foldl (fun (s : ShellState) (name, v) =>
    s.bind name { value := some v, exported := true }) { bindings := base })).bindings

def sayKilled (signal : Nat) : ShellM Unit := do
  match Signal.text? signal with
  | some text => do let _ ← writeTo 2 (lineOf text)
  | none => pure ()

def enterShell : ShellM Unit :=
  modify fun s => { s with
    shell := s.world.shells + 1, world := { s.world with shells := s.world.shells + 1 } }

def release : ShellM Unit :=
  modifyWorld fun w => { w with released := some (w.released.getD w.clock) }

def inLoop {α β : Type} (step : α → ShellM (α ⊕ β)) (bound : Nat) (a : α) : ShellM β := do
  modify fun s => { s with loops := s.loops + 1 }
  tryFinally (iterate step bound a) (modify fun s => { s with loops := s.loops - 1 })

def loop (condition : ShellM Bool) (body : ShellM Nat) : ShellM Nat :=
  inLoop (fun status => tryCatch (do
      if ← condition then return .inl (← body) else return .inr status) fun
    | .broke k => if k ≤ 1 then return .inr 0 else throw (.broke (k - 1))
    | .continued k => if k ≤ 1 then return .inl 0 else throw (.continued (k - 1))
    | h => throw h) stepLimit 0

def eachOf (name : String) (body : ShellM Nat) (fields : List String) : ShellM Nat :=
  inLoop (fun
    | ([], status) => return .inr status
    | (field :: rest, _) => do
      assign name field
      tryCatch (do return .inl (rest, ← body)) fun
        | .broke k => if k ≤ 1 then return .inr 0 else throw (.broke (k - 1))
        | .continued k => if k ≤ 1 then return .inl (rest, 0) else throw (.continued (k - 1))
        | h => throw h) (fields.length + 1) (fields, 0)

mutual

def runText (tested : Bool) : Nat → List Char → ShellM Nat
  | 0, _ => throw .endless
  | n + 1, text => do
    let s ← get
    let source : Source := { rest := text, documents := s.documents, nextDocument := s.documentCount }
    iterate (fun (source, status) => do
      let aliases := (← get).aliases
      match Reads.nextLine.run { source with aliases } with
      | .error f => do
        modify fun s => { s with line := f.line }
        fail f.fault.message
      | .ok (none, _) => return .inr status
      | .ok (some c, source) => do
        modify fun s => { s with
          documents := source.documents, documentCount := source.nextDocument }
        let result ← run tested false n c
        return .inl (source, if c.isNothing then status else result)) (text.length + 2) (source, 0)

def inSubshell : Nat → ShellM Nat → ShellM Nat
  | 0, _ => throw .endless
  | n + 1, a => do
    let (status, signal) ← inCopy n a
    match signal with
    | none => return status
    | some signal => do
      sayKilled signal
      return 128 + signal

def inCopy : Nat → ShellM Nat → ShellM (Nat × Option Nat)
  | 0, _ => throw .endless
  | n + 1, a => do
    let s ← get
    enterShell
    modify fun s => { s with traps := inheritedTraps s, caught := [], copies := s.copies + 1 }
    let outcome ← tryCatch (do return (← ended n a, none)) fun
      | .killed process signal =>
        if s.processId < process then return (0, some signal) else throw (.killed process signal)
      | h => throw h
    restore s
    modifyWorld fun w => { w with released := s.world.released }
    Builtin.receiveSent
    return (outcome.1 % 256, outcome.2)

def ended : Nat → ShellM Nat → ShellM Nat
  | 0, _ => throw .endless
  | n + 1, a => do
    let outcome (a : ShellM Nat) : ShellM Nat := tryCatch a fun
      | .exited status => return status
      | .failed => return 2
      | .returned status => return status
      | .broke _ => return 0
      | .continued _ => return 0
      | h => throw h
    let status ← outcome a
    let s ← get
    match s.traps.lookup "EXIT" with
    | none => return status
    | some action => do
      set { s with traps := s.traps.filter (·.1 != "EXIT"), status }
      outcome do
        let _ ← runText false n action.toList
        return status

def inserted : Nat → Command → ShellM (List Char)
  | 0, _ => throw .endless
  | n + 1, c => do
    let place ← newPipe [] false
    let channels := (← get).channels
    let status ← keepingChannels do
      modify fun s => { s with channels := channels.connect 1 (some (.pipe place)) }
      inSubshell n (run false true n c)
    modify fun s => { s with insertedStatus := some status }
    let text := ((((← get).world.pipes.lookup place).map PipeContent.all).getD []).filter
      (· != '\x00')
    modifyWorld fun w => { w with pipes := w.pipes.filter (·.1 != place) }
    return (text.reverse.dropWhile (· == '\n')).reverse

def routes : Nat → List Redirect → ShellM (List Route)
  | 0, _ => throw .endless
  | n + 1, rs => rs.mapM fun
    | .file channel mode w => do return .file channel mode (← Expansion.text (inserted n) w)
    | .copy channel w => do
      let source ← Expansion.text (inserted n) w
      match source.toList with
      | [c] => if c ≠ '-' ∧ !c.isDigit then fail "Syntax error: Bad fd number"
      | _ => fail "Syntax error: Bad fd number"
      return .copy channel source
    | .document channel number => do
      let w := ((← get).documents.lookup number).getD []
      return .content channel (← Expansion.document (inserted n) w)

def handleSignals : Nat → ShellM Unit
  | 0 => throw .endless
  | n + 1 => do
    let s ← get
    match s.caught with
    | [] => return
    | signal :: rest => do
      set { s with caught := rest }
      match s.traps.lookup signal with
      | none => pure ()
      | some action => do
        let _ ← runText false n action.toList
        modify fun t => { t with status := s.status }
      handleSignals n

def call (tested : Bool) (f : ShellFunction) (args : List String) : Nat → ShellM Nat
  | 0 => throw .endless
  | n + 1 => do
    let s ← get
    if callLimit ≤ s.calls then
      fail ("Maximum function recursion depth (" ++ toString callLimit ++ ") reached")
    set { s with
      args, functionLine := f.line, loops := 0, hidden := [] :: s.hidden, calls := s.calls + 1 }
    let leave : ShellM Unit := modify fun t =>
      let t := (t.hidden.headD []).foldl (fun (t : ShellState) (name, b) => match b with
        | some b => t.bind name b
        | none => t.unbind name) t
      { t with args := s.args, functionLine := s.functionLine, loops := s.loops
               hidden := t.hidden.drop 1, calls := s.calls }
    tryFinally (tryCatch (run tested false n f.body) fun
      | .returned status => return status
      | h => throw h) leave

def builtin (tested special : Bool) (name : String) (args : List String) : Nat → ShellM Nat
  | 0 => throw .endless
  | n + 1 => do
    let body : ShellM Nat := within name do
      match name, args with
      | "eval", _ => runText tested n (String.intercalate " " args).toList
      | ".", [] => return 0
      | ".", path :: _ => do
        let s ← get
        let path? := if path.toList.contains '/' then some path
          else (Builtin.searched s).findSome? fun dir =>
            let p := (if dir.isEmpty then "." else dir) ++ "/" ++ path
            match s.world.files.find? s.dir p with
            | some (.file ..) => some p
            | _ => none
        match path? with
        | none => fail (path ++ ": not found")
        | some path => match s.world.files.find? s.dir path with
          | none => fail (openFault .read path none)
          | some e => do
            let text := match e with
              | .file content _ => content
              | _ => []
            tryCatch (do
              modify fun s => { s with command := none }
              runText tested n text) fun
              | .returned status => return status
              | h => throw h
      | "exec", [] => return 0
      | "exec", name :: args => do
        let status ← program true name args n
        modify fun s => { s with traps := inheritedTraps s }
        throw (.exited status)
      | "exit", _ => do
        let status ← match args with
          | [] => do pure (← get).status
          | a :: _ => Builtin.number a
        throw (.exited status)
      | "return", _ => do
        let status ← match args with
          | [] => do pure (← get).status
          | a :: _ => Builtin.number a
        throw (.returned status)
      | "break", _ => leaveLoops Halt.broke
      | "continue", _ => leaveLoops Halt.continued
      | "command", _ => do
        let (given, rest) ← Builtin.flags "pvV" args
        match rest with
        | [] => return 0
        | name :: _ => do
          sayResult "command" (← if given.contains 'V' then Builtin.describe name
            else Builtin.locate name)
      | _, _ => match Builtin.simple? name args with
        | some a => do sayResult name (← a)
        | none => do
          complain (name ++ ": not found")
          return 127
    if special then body
    else tryCatch body fun
      | .failed => return 2
      | h => throw h
where
  leaveLoops (make : Nat → Halt) : ShellM Nat := do
    let k ← match args with
      | [] => pure 1
      | a :: _ => Builtin.number a
    if k = 0 then fail ("Illegal number: " ++ args.headD "")
    match min k (← get).loops with
    | 0 => return 0
    | k => throw (make k)

def behindCommand : Nat → List String → Option (List String)
  | 0, _ => none
  | n + 1, args =>
    match args with
    | "-p" :: rest => behindCommand n rest
    | "--" :: rest => some rest
    | a :: rest => if a.toList.head? = some '-' ∧ a ≠ "-" then none else some (a :: rest)
    | [] => none

def byName (tested last functions demoted : Bool) (name : String) (args : List String) :
    Nat → ShellM Nat
  | 0 => throw .endless
  | n + 1 => do
    let s ← get
    if name.toList.contains '/' then program last name args n
    else if Builtin.special.contains name then builtin tested (!demoted) name args n
    else match if functions then s.functions.lookup name else none with
      | some f => call tested f args n
      | none =>
        match if name = "command" then behindCommand (args.length + 1) args else none with
        | some (inner :: rest) => byName tested last false true inner rest n
        | _ =>
          if Builtin.regular.contains name then builtin tested false name args n
          else program last name args n

def program (last : Bool) (name : String) (args : List String) : Nat → ShellM Nat
  | 0 => throw .endless
  | n + 1 => do
    let s ← get
    let path? := if name.toList.contains '/' then
        match s.world.files.find s.dir name with
        | .ok _ => some name
        | .error _ => none
      else Builtin.programPath? s name
    match path? with
    | none => do
      complain (name ++ ": " ++ if name.toList.contains '/' then "not found"
        else Builtin.programFault s name)
      return if s.command = some "exec" && Builtin.programFault s name ≠ "not found" then 126 else 127
    | some path => match s.world.files.find? s.dir path with
      | some .program => do
        if last && 0 < s.copies then release
        launch last (String.ofList (lastStep path)) name args n
      | some (.file content mode) =>
        if mode / 64 % 2 = 1 then
          newShell last { s with name := path, args } (runText false n content) n
        else do
          complain (name ++ ": Permission denied")
          return 126
      | _ => do
        complain (name ++ ": Permission denied")
        return 126

def newShell (last : Bool) (fresh : ShellState) (a : ShellM Nat) : Nat → ShellM Nat
  | 0 => throw .endless
  | n + 1 => do
    let s ← get
    let dir := inheritedDir s.env s.dir
    set { fresh with
      dir, bindings := inheritedBindings s.env dir, functions := [], options := [], copies := 0
      traps := inheritedTraps s, caught := [], aliases := [], status := 0, insertedStatus := none
      line := 0, functionLine := 0, command := none, loops := 0, hidden := [], optionPlace := 0
      lastJob := none, calls := 0
      depth := if last && s.copies = 0 then s.depth else s.depth + 1 }
    enterShell
    let own := (← get).processId
    tryCatch (do
      let status ← ended n a
      restore s
      return status % 256) fun
      | .killed process signal => do
        if last ∨ process ≠ own then throw (.killed process signal)
        restore s
        sayKilled signal
        return 128 + signal
      | h => do
        restore s
        throw h

def shellProgram (last : Bool) (called : String) (args : List String) : Nat → ShellM Nat
  | 0 => throw .endless
  | n + 1 => do
    let s ← get
    let r := OptionReading.read true (args.length + 1) { options := [], rest := args }
    let shown := r.shown.flatMap fun form => OptionReading.listing [] form true
    let fresh (own : ShellState) (a : ShellM Nat) : ShellM Nat := newShell last own (do
      modify fun s => { s with options := r.options }
      if !shown.isEmpty then
        let _ ← writeTo 1 shown
      a) n
    let readingInput : ShellM Nat := do
      let text := s.input 0
      takeFrom 0 text.length true
      fresh { s with name := called, args := r.rest } (runText false n text)
    match r.fault, r.script, r.rest with
    | some message, _, _ => fresh { s with name := called } (fail message)
    | none, true, [] => fresh { s with name := called } (fail "-c requires an argument")
    | none, true, line :: rest =>
      fresh { s with name := rest.headD called, args := rest.drop 1 }
        (runText false n line.toList)
    | none, false, [] => readingInput
    | none, false, path :: rest =>
      if r.options.contains 's' then readingInput
      else
        let own := { s with name := path, args := rest }
        match s.world.files.find? s.dir path with
        | some (.file content _) => fresh own (runText false n content)
        | some _ => fresh own (return 0)
        | none => fresh { s with name := called } (do
            complain (openFault .read path none)
            return 2)

def launch (last : Bool) (program_ name : String) (args : List String) : Nat → ShellM Nat
  | 0 => throw .endless
  | n + 1 => do
    if ["sh", "dash", "bash"].contains program_ then shellProgram last name args n
    else do
      let i := invocation (← get) name args
      match utility? program_, plan? Signal.ofText? program_ with
      | some f, _ => carryOut name (f i)
      | none, some plan => match plan i with
        | .effect e => carryOut name e
        | .run r => runFor last name r n
        | .each commands shows => do
          takeFrom 0 i.input.length true
          runEach name commands shows 0 n
      | none, none => do
        complain (name ++ ": not found")
        return 127

def runFor (last : Bool) (utility : String) (r : RunRequest) : Nat → ShellM Nat
  | 0 => throw .endless
  | n + 1 => do
    let s ← get
    let refuse (name : String) (status : Nat) (why : String) : ShellM Nat := do
      let what := if utility = "xargs" then name
        else if utility = "timeout" ∨ utility = "nohup" then
          "failed to run command " ++ quotedPath name
        else quotedPath name
      let _ ← writeTo 2 (lineOf (utility ++ ": " ++ what ++ ": " ++ why))
      return status
    let runs (name : String) (args : List String) : ShellM Nat := do
      match r.env with
      | some env => modify fun s => { s with
          bindings := env.map fun (name, v) => (name, { value := some v, exported := true }) }
      | none => pure ()
      let s ← get
      let path? := if name.toList.contains '/' then some name
        else (s.world.files.programsIn s.dir (searchedIn s.env) name).head?
      match path?.map fun path => (path, s.world.files.find (r.dir.getD s.dir) path) with
      | none => refuse name 127 "No such file or directory"
      | some (_, .error f) => refuse name 127 f.message
      | some (path, .ok (_, e)) => do
        modify fun s => { s with dir := r.dir.getD s.dir }
        let isScript : Bool := match e with
          | .file _ mode => mode / 64 % 2 = 1
          | _ => false
        if e = .program then launch last (String.ofList (lastStep path)) name args n
        else if isScript then shellProgram last "sh" (path :: args) n
        else refuse name 126 "Permission denied"
    match r.command, r.limit with
    | [], _ => return 0
    | name :: args, none => do
      let status ← runs name args
      restore s
      return status
    | name :: args, some limit => do
      let w := s.world
      let stop := w.clock + limit.ms
      if w.deadline ≤ stop then runs name args
      else do
        modifyWorld fun w => { w with deadline := stop }
        let status ← tryCatch (runs name args) fun
          | .endless => do
            modifyWorld fun w => { w with
              clock := stop, heldUntil := min w.heldUntil stop, steps := s.world.steps
              children := w.children.map fun (a, b) => (a, min b stop) }
            match limit.notice with
            | some notice => do let _ ← writeTo 2 (lineOf notice)
            | none => pure ()
            if Signal.harmless.contains limit.signal ∨ Signal.stopping.contains limit.signal then
              throw .endless
            if limit.signal = 9 then
              let _ ← writeTo 2 (lineOf "Killed")
            return if limit.signal = 9 ∨ limit.keepsStatus then 128 + limit.signal else 124
          | h => throw h
        restore s
        modifyWorld fun v => { v with deadline := w.deadline }
        return status

def runEach (utility : String) (commands : List (List String)) (shows : Bool) (status : Nat) :
    Nat → ShellM Nat
  | 0 => throw .endless
  | n + 1 => do
    match commands with
    | [] => return status
    | command :: rest => do
      if shows then
        let _ ← writeTo 2 (lineOf (String.intercalate " " command))
      let channels := (← get).channels
      let result ← keepingChannels do
        modify fun s => { s with channels := channels.connect 0 (some (.device .null)) }
        runFor false utility { command } n
      if result = 126 ∨ result = 127 then return result
      if result = 255 then do
        let _ ← writeTo 2 (lineOf (utility ++ ": " ++ command.headD "" ++
          ": exited with status 255; aborting"))
        return 124
      runEach utility rest shows (if result = 0 then status else 123) n

def trace (values : List (String × String)) (fields : List String) : Nat → ShellM Unit
  | 0 => throw .endless
  | n + 1 => do
    let s ← get
    if s.has 'x' then
      let mark := ((s.valueOf? "PS4").getD "").toList
      set { s with options := s.options.filter (· != 'x') }
      let shown ← match (Reads.doubled .document (mark.length + 2)).run { rest := mark } with
        | .ok (w, _) => Expansion.document (inserted n) w
        | .error _ => pure mark
      modify fun t => { t with options := s.options }
      let _ ← writeTo 2 (shown ++ lineOf (String.intercalate " "
        (values.map (fun (name, v) => name ++ "=" ++ v) ++ fields)))

def simple (tested last : Bool) (line : Nat) (assignments : List (List Char × Word))
    (words : List Word) (redirects : List Redirect) : Nat → ShellM Nat
  | 0 => throw .endless
  | n + 1 => do
    modify fun s => { s with line, insertedStatus := none }
    modifyWorld fun w => { w with steps := w.steps + 1 }
    if stepLimit ≤ (← get).world.steps then throw .endless
    let fields := (← words.mapM (Expansion.fields (inserted n))).flatten
    let rs ← routes n redirects
    let before := (← get).channels
    let special := fields.head?.any Builtin.special.contains
    if !(← followAll rs) then do
      modify fun s => { s with channels := before }
      if special then throw .failed
      return 2
    let keep := fields = ["exec"] ∨ fields = ["command", "exec"]
    let body : ShellM Nat := do
      match fields with
      | [] => do
        let values ← assignments.mapM fun (name, w) => do
          let v ← Expansion.value (inserted n) w
          assign (String.ofList name) v
          return (String.ofList name, v)
        if !values.isEmpty then trace values [] n
        return (← get).insertedStatus.getD 0
      | name :: args =>
        if special then do
          let values ← assignments.mapM fun (name, w) => do
            let v ← Expansion.value (inserted n) w
            assign (String.ofList name) v
            return (String.ofList name, v)
          trace values fields n
          byName tested last true false name args n
        else if assignments.isEmpty then do
          trace [] fields n
          byName tested last true false name args n
        else do
          let old := (← get).bindings
          let values ← assignments.mapM fun (name, w) => do
            let v ← Expansion.value (inserted n) w
            let name := String.ofList name
            assign name v
            modify fun s => s.bind name { (s.bindings.lookup name).getD {} with exported := true }
            return (name, v)
          trace values fields n
          let names := (values.map (·.1)).eraseDups
          tryFinally (byName tested last true false name args n)
            (modify fun s => names.foldl (fun (s : ShellState) name => match old.lookup name with
              | some b => s.bind name b
              | none => s.unbind name) s)
    if keep then
      tryCatch body fun h => do
        modify fun s => { s with channels := before }
        throw h
    else tryFinally body (modify fun s => { s with channels := before })

def pipe : Nat → List Command → ShellM Nat
  | 0, _ => throw .endless
  | n + 1, parts => do
    let begins := (← get).world.clock
    keepingChannels do
      let mut status := 0
      let mut input : Option Nat := none
      let mut latest := begins
      let own := (← get).channels
      for (c, k) in parts.zipIdx do
        let isLast := k + 1 = parts.length
        modifyWorld fun w => { w with clock := begins }
        let output ← newPipe [] false
        let channels := match input with
          | some p => own.connect 0 (some (.pipe p))
          | none => own
        modify fun s => { s with
          channels := if isLast then channels else channels.connect 1 (some (.pipe output)) }
        let s ← get
        let (result, ends) ← tryCatch (do
          let status ← inSubshell n (run false true n c)
          return (status, some (← get).world.clock)) fun
          | .endless => do
            let w := (← get).world
            let wrote := (w.pipes.lookup output).any fun p => !p.all.isEmpty
            if isLast ∨ !wrote ∨ w.deadline ≤ w.clock then throw .endless
            restore s
            modifyWorld fun w => { w with steps := s.world.steps }
            return (141, none)
          | h => throw h
        status := result
        latest := max latest (ends.getD begins)
        let read := input
        let after (p : Nat × PipeContent) : Option (Nat × PipeContent) :=
          if p.1 = output then (if isLast then none else some (p.1, { p.2 with ends }))
          else if some p.1 = read then none
          else some p
        modifyWorld fun w => { w with pipes := w.pipes.filterMap after }
        input := some output
      passTo latest
      return status

def background (redirects : List Redirect) (c : Command) : Nat → ShellM Nat
  | 0 => throw .endless
  | n + 1 => do
    let s ← get
    let begins := s.world.clock
    let number := 5000 + s.world.jobs.length
    let job : Job := { number, owner := s.shell, slot := Builtin.freeSlot s, ends := begins }
    set { s with
      channels := s.channels.connect 0 (some (.device .null))
      world := { s.world with
        current := some number, heldUntil := 0, children := []
        jobs := s.world.jobs ++ [job] } }
    let never := s.world.deadline + 1
    let (outcome, ends) ← tryCatch (do
      let outcome ← inCopy n do
        modifyWorld fun w => { w with released := none }
        let rs ← routes n redirects
        if ← followAll rs then
          let holds := (← get).channels.holdOutput
          let letGo (ends : Nat) : ShellM Unit := modifyWorld fun w =>
            if holds then { w with heldUntil := max w.heldUntil (w.released.getD ends) } else w
          let status ← tryCatch (run false true n c) fun h => do
            let clock := (← get).world.clock
            letGo (if h = .endless then never else clock)
            throw h
          letGo (← get).world.clock
          return status
        else return 2
      return (outcome, (← get).world.clock)) fun
      | .endless => return ((0, none), never)
      | h => throw h
    restore { s with lastJob := some number }
    let w := (← get).world
    modifyWorld fun w => { w with
      clock := begins, current := s.world.current, children := s.world.children
      heldUntil := max s.world.heldUntil w.heldUntil }
    let status := match outcome.2 with
      | some signal => 128 + signal
      | none => outcome.1
    Builtin.changeJob number fun j => { j with
      ends, status, signal := outcome.2, heldUntil := w.heldUntil, children := w.children }
    return 0

def select (tested last : Bool) (subject : List Char) (cases : List (List Word × Command)) :
    Nat → ShellM Nat
  | 0 => throw .endless
  | n + 1 => do
    match cases with
    | [] => return 0
    | (patterns, c) :: rest => do
      if ← fits subject patterns n then run tested last n c else select tested last subject rest n

def fits (subject : List Char) (patterns : List Word) : Nat → ShellM Bool
  | 0 => throw .endless
  | n + 1 => do
    for w in patterns do
      let ps ← Expansion.ofWord (inserted n) false w
      if (patternOf ps).isMatch subject then return true
    return false

def run (tested last : Bool) : Nat → Command → ShellM Nat
  | 0, _ => throw .endless
  | n + 1, c => do
    if (← get).has 'n' then return (← get).status
    handleSignals n
    let redirected (line : Nat) (rs : List Redirect) (a : ShellM Nat) : ShellM Nat := do
      modify fun s => { s with line := if rs.isEmpty then s.line else line }
      let rs ← routes n rs
      keepingChannels do
        if ← followAll rs then a else return 2
    let status ← (do match c with
      | .nothing => return 0
      | .simple line assignments words rs => simple tested last line assignments words rs n
      | .sequence a b => do
        let _ ← run tested false n a
        run tested last n b
      | .both a b => do
        let status ← run true false n a
        if status = 0 then run tested last n b else return status
      | .either a b => do
        let status ← run true false n a
        if status = 0 then return 0 else run tested last n b
      | .pipe parts => pipe n parts
      | .negated a => do return if (← run true false n a) = 0 then 1 else 0
      | .background line a rs => do
        modify fun s => { s with line := if rs.isEmpty then s.line else line }
        background rs a n
      | .subshell line a rs => do
        modify fun s => { s with line := if rs.isEmpty then s.line else line }
        let rs ← routes n rs
        let s ← get
        let isReplaced := last && 0 < s.copies && s.traps.isEmpty
        let body : ShellM Nat := do
          if ← followAll rs then
            if isReplaced && !(← get).channels.holdOutput then release
            run tested true n a
          else return 2
        if isReplaced then body else inSubshell n body
      | .redirected line a rs => redirected line rs (run tested false n a)
      | .choice condition yes no => do
        if (← run true false n condition) = 0 then run tested last n yes
        else run tested last n no
      | .loop whileFails condition body =>
        loop (do return ((← run true false n condition) = 0) ≠ whileFails) (run tested false n body)
      | .forEach line name words body => do
        modify fun s => { s with line }
        let fields := (← words.mapM (Expansion.fields (inserted n))).flatten
        let name := String.ofList name
        eachOf name (run tested false n body) fields
      | .select line subject cases => do
        modify fun s => { s with line }
        let subject ← Expansion.text (inserted n) subject
        select tested last subject.toList cases n
      | .define line name body => do
        modify fun s =>
          let name := String.ofList name
          { s with functions := (name, ⟨line, body⟩) :: s.functions.filter (·.1 != name) }
        return 0 : ShellM Nat)
    let isNothing := c.isNothing
    if !isNothing then modify fun s => { s with status }
    handleSignals n
    let checked := match c with
      | .simple .. => true
      | .subshell .. => true
      | .background .. => true
      | .pipe .. => true
      | _ => false
    if checked && !tested && status ≠ 0 && (← get).has 'e' then throw (.exited status)
    return status

end

def depthLimit : Nat := 100000

end Script

end HostProbe.Posix
