import HostProbe.Posix.FileTree
import HostProbe.Posix.Utility.Basic

/-! # Utilities for files and paths

Taking paths apart, and making, copying, moving, listing and removing files. -/

namespace HostProbe.Posix

open Effect

def withoutSlashes (path : List Char) : List Char :=
  let kept := (path.reverse.dropWhile (· == '/')).reverse
  if kept.isEmpty then path.take 1 else kept

def realPath (files : FileTree) (path : String) : String :=
  match files.linkOf? "/" path with
  | some target => pathOf ((placeOf "/" path).dropLast ++ [lastStep target])
  | none => path

namespace Invocation

variable (i : Invocation)

def basename : Effect :=
  i.withOptions 1 "az" "s" [("multiple", 'a'), ("suffix", 's'), ("zero", 'z')]
    fun (options : Options) args =>
      let many := options.has 'a' || options.has 's'
      let stop := if options.has 'z' then '\x00' else '\n'
      let write (suffix path : String) : List Char :=
        let last := lastStep path
        let cutEnd := suffix.toList
        let kept := if !cutEnd.isEmpty && cutEnd.isSuffixOf last && cutEnd ≠ last then
            last.take (last.length - cutEnd.length)
          else last
        kept ++ [stop]
      match args with
      | [] => i.misused 1 "missing operand"
      | path :: rest =>
        if many then writing (args.flatMap (write ((options.valueOf? 's').getD "")))
        else match rest with
          | [] => writing (write "" path)
          | [suffix] => writing (write suffix path)
          | _ :: extra :: _ => i.misused 1 ("extra operand " ++ quotedPath extra)

def dirname : Effect :=
  i.withOptions 1 "z" "" [("zero", 'z')] fun (options : Options) args =>
    let stop := if options.has 'z' then '\x00' else '\n'
    let above (path : String) : List Char :=
      let p := withoutSlashes path.toList
      if !p.contains '/' then ['.']
      else
        let kept := (p.reverse.dropWhile (· != '/')).reverse
        withoutSlashes kept
    if args.isEmpty then i.misused 1 "missing operand"
    else writing (args.flatMap fun p => above p ++ [stop])

def realpath : Effect :=
  i.withOptions 1 "emqsz" "" [("canonicalize-existing", 'e'), ("canonicalize-missing", 'm'),
      ("quiet", 'q')] fun (options : Options) args =>
      if args.isEmpty then i.misused 1 "missing operand"
      else args.foldl (fun e path =>
        let fault := match i.files.resolve i.dir path with
          | .error f => some f.message
          | .ok place =>
            if options.has 'm' then none
            else if (i.files.get? place).isSome then none
            else if !options.has 'e' && i.files.get? place.dropLast = some .dir then none
            else some "No such file or directory"
        match if options.has 'm' && !path.isEmpty then none else fault with
        | some why =>
          if options.has 'q' then { e with status := 1 }
          else e.complain 1 (i.name ++ ": " ++ shownPath path ++ ": " ++ why)
        | none => e.write (lineOf (realPath i.files (physical i.dir path)))) ({} : Effect)

def readlink : Effect :=
  i.withOptions 1 "femnqsvz" "" [("canonicalize", 'f')] fun (options : Options) args =>
    if args.isEmpty then i.misused 1 "missing operand"
    else if options.has 'f' || options.has 'e' || options.has 'm' then
      args.foldl (fun e path =>
        match i.files.resolve i.dir path with
        | .ok place =>
          if (i.files.get? place.dropLast).isSome then
            e.write (let p := realPath i.files (physical i.dir path)
              if options.has 'n' then p.toList else lineOf p)
          else { e with status := 1 }
        | .error _ => { e with status := 1 }) ({} : Effect)
    else args.foldl (fun e path => match i.files.linkOf? i.dir path with
      | some target => e.write (if options.has 'n' then target.toList else lineOf target)
      | none => { e with status := 1 }) ({} : Effect)

def pwd : Effect :=
  i.withOptions 1 "LP" "" [("logical", 'L'), ("physical", 'P')] fun (options : Options) args =>
    let shown := match (options.lastOf? ['L', 'P']).map Prod.fst, i.env.lookup "PWD" with
      | some 'L', some pwd =>
        let isPlain := (stepsOf pwd).all fun s => s ≠ ['.'] && s ≠ ['.', '.']
        if isAbsolute pwd && isPlain && physical "/" pwd = i.dir then pwd else i.dir
      | _, _ => i.dir
    let e : Effect := if args.isEmpty then {}
      else ({} : Effect).complain 0 (i.name ++ ": ignoring non-option arguments")
    e.write (lineOf shown)

def mkdir : Effect :=
  i.withOptions 1 "pv" "m" [("parents", 'p'), ("verbose", 'v'), ("mode", 'm')]
    fun (options : Options) args =>
      if args.isEmpty then i.misused 1 "missing operand"
      else
        let report (e : Effect) (path : String) : Effect :=
          if options.has 'v' then
            e.write (lineOf (i.name ++ ": created directory " ++ quotedPath path))
          else e
        let refuse (e : Effect) (path why : String) : Effect := e.complain 1
          (i.name ++ ": cannot create directory " ++ quotedPath path ++ ": " ++ why)
        args.foldl (fun (e : Effect) path =>
          let files := e.files.getD i.files
          if options.has 'p' then
            let place := placeOf i.dir path
            let steps := (List.range (place.length + 1)).map place.take
            match steps.find? fun p => (files.get? p).any (· ≠ .dir) with
            | some p =>
              if p = place then refuse e path "File exists"
              else refuse e (if isAbsolute path then pathOf p else String.ofList
                (path.toList.take (path.length - (pathOf place).length + (pathOf p).length)))
                "Not a directory"
            | none =>
              let new := steps.filter fun p => (files.get? p).isNone
              let files := new.foldl (fun (t : FileTree) p => t.set p (some .dir)) files
              { (if new.isEmpty then e else report e path) with files := some files }
          else match files.resolve i.dir (String.ofList (withoutSlashes path.toList)) with
            | .error f => refuse e path f.message
            | .ok place =>
              if (files.get? place).isSome then refuse e path "File exists"
              else match files.get? place.dropLast with
                | some .dir => report { e with files := some (files.set place (some .dir)) } path
                | _ => refuse e path "No such file or directory") ({} : Effect)

def rmdir : Effect :=
  i.withOptions 1 "pv" "" [("parents", 'p'), ("verbose", 'v')] fun (options : Options) args =>
    if args.isEmpty then i.misused 1 "missing operand"
    else args.foldl (fun (e : Effect) path =>
      let files := e.files.getD i.files
      let e := if options.has 'v' then
          e.write (lineOf (i.name ++ ": removing directory, " ++ quotedPath path))
        else e
      let refuse (why : String) : Effect := e.complain 1
        (i.name ++ ": failed to remove " ++ quotedPath path ++ ": " ++ why)
      match files.find i.dir path with
      | .error f => refuse f.message
      | .ok (place, .dir) =>
        if files.isEmptyDir place && (FileTree.standard? place).isNone then
          { e with files := some (files.set place none) }
        else refuse "Directory not empty"
      | .ok _ => refuse "Not a directory") ({} : Effect)

def rm : Effect :=
  i.withOptions 1 "fiIrRdv" "" [("force", 'f'), ("recursive", 'r'), ("verbose", 'v'), ("dir", 'd')]
    fun (options : Options) args =>
      if args.isEmpty then (if options.has 'f' then {} else i.misused 1 "missing operand")
      else args.foldl (fun (e : Effect) path =>
        let files := e.files.getD i.files
        let refuse (why : String) : Effect := e.complain 1
          (i.name ++ ": cannot remove " ++ quotedPath path ++ ": " ++ why)
        let removed (text : String) (files : FileTree) : Effect :=
          let e := { e with files := some files }
          if options.has 'v' then e.write (lineOf (text ++ quotedPath path)) else e
        match files.find i.dir path with
        | .error f => if options.has 'f' then e else refuse f.message
        | .ok (place, .dir) =>
          if options.has 'r' || options.has 'R' then
            removed "removed directory " (files.removeAll place)
          else if options.has 'd' then
            if files.isEmptyDir place && (FileTree.standard? place).isNone then
              removed "removed directory " (files.set place none)
            else refuse "Directory not empty"
          else refuse "Is a directory"
        | .ok (place, _) => removed "removed " (files.set place none)) ({} : Effect)

def touch : Effect :=
  i.withOptions 1 "acmfh" "drt" [("no-create", 'c'), ("date", 'd')] fun (options : Options) args =>
    if args.isEmpty then i.misused 1 "missing file operand"
    else args.foldl (fun (e : Effect) path =>
      let files := e.files.getD i.files
      if (files.find? i.dir path).isSome || options.has 'c' then e
      else match i.written files path [] true with
        | .ok files => { e with files := some files }
        | .error why => e.complain 1 (i.name ++ ": cannot touch " ++ quotedPath path ++ ": " ++
            (if why = "Is a directory" then "No such file or directory" else why))) ({} : Effect)

def chmod : Effect :=
  let letters := i.args.filter fun a => match a.toList with
    | '-' :: c :: _ => "rwx".toList.contains c
    | _ => false
  { i with args := i.args.filter fun a => !letters.contains a }.withOptions 1 "Rcfv" ""
    [("recursive", 'R'), ("verbose", 'v')] fun (_ : Options) (args : List String) =>
      match letters ++ args with
      | [] => i.misused 1 "missing operand"
      | [mode] => i.misused 1 ("missing operand after " ++ quotedPath mode)
      | mode :: paths =>
        if (changedRights 0 mode.toList).isNone then
          i.misused 1 ("invalid mode: " ++ quotedPath mode)
        else paths.foldl (fun (e : Effect) path =>
          let files := e.files.getD i.files
          match files.find i.dir path with
          | .ok (place, .file content old) =>
            { e with files := some (files.set place
                (some (.file content ((changedRights old mode.toList).getD old)))) }
          | .ok _ => e
          | .error f => e.complain 1
              (i.name ++ ": cannot access " ++ quotedPath path ++ ": " ++ f.message)) ({} : Effect)

def copiedTo (files : FileTree) (source target : Place) : FileTree :=
  let all := (source :: (files.below source).reverse).eraseDups
  all.foldl (fun (t : FileTree) p =>
    match files.get? p with
    | some (.program) => t.set (target ++ p.drop source.length) (some (.file [] 0o755))
    | some e => t.set (target ++ p.drop source.length) (some e)
    | none => t) files

def transfer (moves : Bool) : Effect :=
  i.withOptions 1 "afrRpvnuTidL" "t" [("recursive", 'r'), ("force", 'f'), ("archive", 'a'),
      ("no-clobber", 'n'), ("verbose", 'v')] fun (options : Options) args =>
      match args.reverse with
      | [] => i.misused 1 "missing file operand"
      | [a] => i.misused 1 ("missing destination file operand after " ++ quotedPath a)
      | target :: sources =>
        let isInto := i.files.isDir i.dir target
        if 1 < sources.length ∧ !isInto then
          i.failing 1 ("target " ++ quotedPath target ++
            (if (i.files.find? i.dir target).isSome then " is not a directory"
              else ": No such file or directory"))
        else sources.reverse.foldl (fun (e : Effect) source =>
          let files := e.files.getD i.files
          match files.find i.dir source with
          | .error f => e.complain 1
              (i.name ++ ": cannot stat " ++ quotedPath source ++ ": " ++ f.message)
          | .ok (place, entry) =>
            let deep := moves || options.has 'r' || options.has 'R' || options.has 'a'
            if entry = .dir && !deep then e.complain 1
              (i.name ++ ": -r not specified; omitting directory " ++ quotedPath source)
            else
              let path := if isInto then target ++ "/" ++ String.ofList (lastStep source) else target
              match files.resolve i.dir path with
              | .error f => e.complain 1 (i.name ++ ": cannot create regular file " ++
                  quotedPath path ++ ": " ++ f.message)
              | .ok goal =>
                if goal = place then e.complain 1 (i.name ++ ": " ++ quotedPath source ++ " and " ++
                  quotedPath path ++ " are the same file")
                else if files.get? goal.dropLast ≠ some .dir then e.complain 1 (i.name ++
                  (if moves then ": cannot move " ++ quotedPath source ++ " to " ++ quotedPath path
                    else ": cannot create regular file " ++ quotedPath path) ++
                  ": No such file or directory")
                else if options.has 'n' && (files.get? goal).isSome then e
                else
                  let e := if options.has 'v' then e.write (lineOf
                      ((if moves then "renamed " else "") ++ quotedPath source ++ " -> " ++
                        quotedPath path))
                    else e
                  let copied := match files.get? goal with
                    | some (.device _) => files
                    | _ => copiedTo files place goal
                  { e with files := some (if moves then copied.removeAll place else copied) })
          ({} : Effect)

def ls : Effect :=
  i.withOptions 2 "1aAdCFhiklmnpqrRsStuUx" "" [("all", 'a'), ("almost-all", 'A'), ("directory", 'd'),
      ("reverse", 'r')] fun (options : Options) args =>
      let given := if args.isEmpty then ["."] else args
      let paths := given.mergeSort fun a b => decide (a ≤ b)
      let known := paths.filter fun p => (i.files.find? i.dir p).isSome
      let e := (given.filter fun p => !known.contains p).foldl (fun (e : Effect) p =>
        let why := match i.files.find i.dir p with
          | .error f => f.message
          | .ok _ => ""
        e.complain 2 (i.name ++ ": cannot access " ++ quotedPath p ++ ": " ++ why)) ({} : Effect)
      let isListed (p : String) : Bool := i.files.isDir i.dir p && !options.has 'd'
      let turned {α : Type} (l : List α) : List α := if options.has 'r' then l.reverse else l
      let plain := turned (known.filter fun p => !isListed p)
      let dirs := turned (known.filter isListed)
      let names (p : String) : List (List Char) :=
        let inside := i.files.namesIn (placeOf i.dir p)
        turned ((if options.has 'a' then [['.'], ['.', '.']] else []) ++ inside.filter fun n =>
          n.head? != some '.' || options.has 'a' || options.has 'A')
      let titled := 1 < paths.length
      let list (p : String) : List Char :=
        (if titled then lineOf (p ++ ":") else []) ++ unlines (names p)
      let parts := (if plain.isEmpty then [] else [plain.flatMap lineOf]) ++ dirs.map list
      e.write (List.intersperse ['\n'] parts).flatten

end Invocation

end HostProbe.Posix
