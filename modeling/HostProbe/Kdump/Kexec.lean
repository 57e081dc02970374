import HostProbe.Tool.Registry
import HostProbe.Tool.Files
import HostProbe.Tool.Source

/-! # The loader of the crash kernel

Its version stands after its name at the start of a line: three runs of digits with one character
between them. On the Debian family a packaged version that is too old is replaced by one that is
built from source. -/

namespace HostProbe.Kexec

open HostProbe.Text HostProbe.Decimal NodeM

variable {σ : Type} (n : Node σ)

def digitCuts (s : List Char) : List (List Char × List Char) :=
  let run := (s.takeWhile isDecimalDigit).length
  (List.range run).reverse.map fun i => s.splitAt (i + 1)

def pastOne? : List Char → Option (Char × List Char)
  | c :: s => if c = '\n' then none else some (c, s)
  | [] => none

/-- Three runs of digits with a character between them, and the text that they take; the first run
is as long as the others allow, then the second. -/
def triple? (s : List Char) : Option (List Char × List Char × List Char × List Char) :=
  (digitCuts s).findSome? fun (a, afterA) => do
    let (c, afterC) ← pastOne? afterA
    (digitCuts afterC).findSome? fun (b, afterB) => do
      let (d, afterD) ← pastOne? afterB
      match afterD.takeWhile isDecimalDigit with
      | [] => none
      | run => some (a, b, run, a ++ [c] ++ b ++ [d] ++ run)

structure Mention where
  text : List Char
  runs : List Char × List Char × List Char

def mentionAt? (s : List Char) : Option Mention := do
  let rest ← dropStart? "kexec".toList s
  let name := rest.takeWhile (!isBlank ·)
  let afterName := rest.dropWhile (!isBlank ·)
  let gap := afterName.takeWhile isBlank
  if name.isEmpty || gap.isEmpty then none
  else
    let (a, b, c, taken) ← triple? (afterName.dropWhile isBlank)
    some ⟨"kexec".toList ++ name ++ gap ++ taken, a, b, c⟩

def mention? (s : List Char) : Option Mention :=
  match mentionAt? s with
  | some m => some m
  | none => go s
where
  go : List Char → Option Mention
    | [] => none
    | c :: cs =>
      if c = '\n' then
        match mentionAt? cs with
        | some m => some m
        | none => go cs
      else go cs

def versionOf (output : String) : Except Fault Version :=
  match mention? output.toList with
  | none => .error (.invalidVersion output)
  | some m =>
    match readUInt64? m.runs.1, readUInt64? m.runs.2.1, readUInt64? m.runs.2.2 with
    | some major, some minor, some patch => .ok (.release major minor patch)
    | _, _, _ => .error (.invalidVersion (String.ofList m.text))

def version : NodeM σ Version := do
  let result ← n.executeCached "kexec -v" (ExecOptions.quiet { asRoot := true })
  let _ ← result.requireSuccess (trimmed result.stderr)
  let v ← versionOf result.stdout
  log .info "kexec version" [n.field, ("version", v.text)]
  return v

def minimum : Version := .release 2 0 15

def sourceUrl : String :=
  "https://mirrors.edge.kernel.org/pub/linux/utils/kernel/kexec/kexec-tools-2.0.18.tar.gz"

def buildDir : String := "/var/tmp/vmcheck/kexec"

def installFromSource : Procedure σ Unit := do
  log (σ := σ) .info "building kexec-tools from source" [n.field, ("url", sourceUrl)]
  let _ ← Procedure.tool .wget
  let archive ← Wget.get n sourceUrl buildDir none false false
  let _ ← Procedure.tool .tar
  Tar.extract n archive buildDir true false
  let root ← Tar.rootFolder n archive
  let sourceDir := buildDir ++ "/" ++ root
  let _ ← Procedure.tool .gcc
  let here : ExecOptions := { dir := some sourceDir }
  let _ ← n.execute "./configure" (here.successOr "failed to configure kexec-tools")
  let _ ← Procedure.tool .make
  Make.install n sourceDir true
  let opts : ExecOptions := { asRoot := true, shell := true }
  let _ ← n.execute "yes | cp -f /usr/local/sbin/kexec /sbin/"
    (opts.successOr "failed to replace /sbin/kexec")

def install (t : Tool) : Procedure σ Unit := do
  n.installPackages ["kexec-tools"]
  match t.detail with
  | .kexec .debian =>
    let v ← version n
    if v.before minimum then installFromSource n
  | _ => return ()

def entry : ToolEntry σ where
  ref := .kexec
  dependencies := []
  create os _ := .ok ⟨"kexec", true, .kexec os.family⟩
  probe := Tool.probeCommand
  install := install

def makedumpfilePackage (family : OsFamily) : String :=
  if family = .redhat then "kexec-tools" else "makedumpfile"

def installMakedumpfile (t : Tool) : Procedure σ Unit :=
  match t.detail with
  | .makedumpfile package => n.installPackages [package]
  | _ => return ()

def makedumpfileEntry : ToolEntry σ where
  ref := .makedumpfile
  dependencies := []
  create os _ := .ok ⟨"makedumpfile", true, .makedumpfile (makedumpfilePackage os.family)⟩
  probe := Tool.probeCommand
  install := installMakedumpfile

end HostProbe.Kexec
