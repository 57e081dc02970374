import HostProbe.Posix.Bytes
import HostProbe.Posix.Path
import HostProbe.Text.Blank

/-! # Files

Every machine has some directories, files and programs; which others it has is not known here. What
was made, changed or removed since then is kept beside them. The contents of the files that a
machine has from the start are not known either: they count as empty. -/

namespace HostProbe.Posix

inductive Device where
  | null
  | zero
  | full
  deriving DecidableEq, Repr

inductive Entry where
  | dir
  | file (content : List Char) (mode : Nat)
  | program
  | device (d : Device)
  deriving DecidableEq, Repr

inductive PathFault where
  | absent
  | notDirectory
  deriving DecidableEq, Repr

def PathFault.message : PathFault → String
  | .absent => "No such file or directory"
  | .notDirectory => "Not a directory"

structure FileTree where
  changes : List (Place × Option Entry) := []
  deriving Repr, Inhabited

namespace FileTree

def directories : List String :=
  ["/", "/boot", "/dev", "/dev/fd", "/dev/pts", "/dev/shm", "/etc", "/home", "/media", "/mnt",
    "/opt", "/proc", "/root", "/run", "/run/lock", "/srv", "/sys", "/tmp", "/usr", "/usr/bin", "/usr/include",
    "/usr/lib", "/usr/lib64", "/usr/local", "/usr/local/bin", "/usr/sbin", "/usr/share", "/var", "/var/cache",
    "/var/lib", "/var/log", "/var/tmp"]

def files : List String :=
  ["/etc/bash.bashrc", "/etc/debian_version", "/etc/fstab", "/etc/group", "/etc/gshadow",
    "/etc/host.conf", "/etc/hostname", "/etc/hosts", "/etc/issue", "/etc/login.defs",
    "/etc/nsswitch.conf", "/etc/os-release", "/etc/passwd", "/etc/profile", "/etc/resolv.conf",
    "/etc/shadow", "/etc/shells"]

def devices : List (String × Device) :=
  [("/dev/null", .null), ("/dev/zero", .zero), ("/dev/full", .full), ("/dev/random", .zero),
    ("/dev/urandom", .zero), ("/dev/tty", .null)]

def programDir : Place := ["usr", "bin"].map String.toList

def programs : List String :=
  ["[", "awk", "base64", "basename", "bash", "cat", "chgrp", "chmod", "chown", "cksum", "cmp",
    "comm", "cp", "csplit", "cut", "dash", "date", "dd", "df", "diff", "dir", "dirname", "du",
    "echo", "egrep", "env", "expand", "expr", "factor", "false", "fgrep", "find", "fmt", "fold",
    "grep", "groups", "gzip", "head", "hostname", "id", "install", "join", "kill", "link", "ln",
    "logname", "ls", "md5sum", "mkdir", "mkfifo", "mktemp", "mv", "nice", "nl", "nohup", "nproc",
    "numfmt", "od", "paste", "perl", "pr", "printenv", "printf", "ps", "pwd", "readlink",
    "realpath", "rev", "rm", "rmdir", "sed", "seq", "sh", "sha1sum", "sha256sum", "sha512sum",
    "shuf", "sleep", "sort", "split", "stat", "stty", "sum", "sync", "tac", "tail", "tar", "tee",
    "test", "timeout", "touch", "tr", "true", "truncate", "tsort", "tty", "uname", "unexpand",
    "uniq", "unlink", "users", "vdir", "wc", "which", "who", "whoami", "xargs", "yes"]

def standard? (place : Place) : Option Entry :=
  let path := pathOf place
  if directories.contains path then some .dir
  else if files.contains path then some (.file [] 0o644)
  else match devices.lookup path with
    | some d => some (.device d)
    | none =>
      if place.dropLast = programDir &&
          programs.contains (String.ofList (place.getLastD [])) then some .program
      else none

variable (t : FileTree)

def get? (place : Place) : Option Entry :=
  match t.changes.lookup place with
  | some e => e
  | none => standard? place

def set (place : Place) (e : Option Entry) : FileTree := ⟨(place, e) :: t.changes⟩

def walk (place : Place) : List (List Char) → Except PathFault Place
  | [] => .ok place
  | step :: steps =>
    match t.get? place with
    | some .dir => walk (follow place step) steps
    | some _ => .error .notDirectory
    | none => .error .absent

def resolve (dir path : String) : Except PathFault Place :=
  if path.isEmpty then .error .absent
  else if isAbsolute path then t.walk [] (stepsOf path)
  else t.walk (placeOf "/" dir) (stepsOf path)

def find (dir path : String) : Except PathFault (Place × Entry) := do
  let place ← t.resolve dir path
  match t.get? place with
  | some e => return (place, e)
  | none => throw .absent

def find? (dir path : String) : Option Entry := (t.find dir path).toOption.map (·.2)

def isDir (dir path : String) : Bool := t.find? dir path = some .dir

def isProgram (dir path : String) : Bool :=
  match t.find? dir path with
  | some .program => true
  | some (.file _ mode) => mode / 64 % 2 = 1
  | _ => false

def programsIn (dir : String) (searched : List String) (name : String) : List String :=
  (searched.map fun d => (if d.isEmpty then "." else d) ++ "/" ++ name).filter (t.isProgram dir)

def linkOf? (dir path : String) : Option String :=
  let steps := stepsOf path
  match t.resolve dir (if steps.length ≤ 1 then "." else
      String.ofList (List.intersperse ['/'] steps.dropLast).flatten ++ "/"), steps.getLastD [] with
  | .ok [], step => if linked.contains step then some ("usr/" ++ String.ofList step) else none
  | .ok place, step => if place = programDir ∧ step = "sh".toList then some "dash" else none
  | .error _, _ => none

def namesIn (place : Place) : List (List Char) :=
  let known := directories ++ files ++ devices.map (·.1)
  let places := known.map (placeOf "/") ++ t.changes.map (·.1) ++
    (if place = programDir then programs.map fun p => place ++ [p.toList] else [])
  let inside := places.filter fun p => p ≠ [] && p.dropLast = place && (t.get? p).isSome
  let links := if place = [] then linked else []
  (inside.map (·.getLastD []) ++ links).eraseDups.mergeSort fun a b =>
    decide (String.ofList a ≤ String.ofList b)

def isEmptyDir (place : Place) : Bool := (t.namesIn place).isEmpty

def below (place : Place) : List Place :=
  (t.changes.map (·.1)).filter fun p => place.isPrefixOf p && p ≠ place && (t.get? p).isSome

def removeAll (place : Place) : FileTree :=
  (place :: t.below place).foldl (fun t p => t.set p none) t

end FileTree

def known (path : String) : Except PathFault Entry :=
  let isUpward : Bool := !path.isEmpty &&
    (stepsOf path).all fun step => step = [] || step = ['.'] || step = ['.', '.']
  if isAbsolute path then (({} : FileTree).find "/" path).map (·.2)
  else if isUpward then .ok .dir
  else .error .absent

def isDir (path : String) : Bool := (known path).toOption = some .dir

end HostProbe.Posix

/-! ## Permissions

The permissions of a file are nine bits: three for its owner, three for its group and three for all
others. They are written as a number to the base 8, or as changes by letters. -/

namespace HostProbe.Posix

def changeRights (m : Nat) (part : List Char) : Option Nat :=
  let who := part.takeWhile fun c => "ugoa".toList.contains c
  match part.drop who.length with
  | op :: rights =>
    if "+-=".toList.contains op && rights.all fun c => "rwx".toList.contains c then
      let bits := (if rights.contains 'r' then 4 else 0) + (if rights.contains 'w' then 2 else 0) +
        (if rights.contains 'x' then 1 else 0)
      let change (c : Char) (unit : Nat) (m : Nat) : Nat :=
        if who = [] || who.contains 'a' || who.contains c then
          let old := m / unit % 8
          let new := if op = '=' then bits else if op = '+' then old ||| bits
            else old &&& (7 - bits)
          m - old * unit + new * unit
        else m
      some (change 'o' 1 (change 'g' 8 (change 'u' 64 m)))
    else none
  | [] => none

def changedRights (m : Nat) (s : List Char) : Option Nat :=
  if s.all isOctal && !s.isEmpty then
    if digitsValue 8 s < 4096 then some (digitsValue 8 s) else none
  else (Text.splitAt ',' s).foldlM changeRights m

end HostProbe.Posix
