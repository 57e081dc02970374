import HostProbe.Node.Execute
import HostProbe.Package.Report

/-! # Installing packages on a node

The view of the repositories is refreshed once before a package is installed or asked for. Packages
that the repositories do not know are named in the fault, whatever the manager's exit code. -/

namespace HostProbe.Node

open HostProbe.Text NodeM

variable {σ : Type} (n : Node σ)

def packageManager : NodeM σ PackageKind := do
  match (← get).packages with
  | some (kind, _) => return kind
  | none =>
    let kind ← PackageKind.ofOs (← n.os)
    modify fun s => { s with packages := some (kind, .fresh) }
    return kind

def packageOptions : ExecOptions := { asRoot := true, shell := true }

def refresh (kind : PackageKind) : NodeM σ Unit := do
  match kind.refreshCommand? with
  | some command =>
    let _ ← n.execute command (packageOptions.successOr "failed to refresh package metadata")
  | none => return ()

def ensureFresh (kind : PackageKind) : NodeM σ Unit := fun s =>
  Once.ensure (fun s => (s.packages.map (·.2)).getD .fresh)
    (fun fresh s => { s with packages := s.packages.map fun (kind, _) => (kind, fresh) })
    (n.refresh kind) s

def installWith (kind : PackageKind) (packages : List String) : NodeM σ Unit := do
  if packages.isEmpty then return ()
  n.ensureFresh kind
  let command := kind.installCommand (← Shell.quoteAll packages)
  log .info "installing packages"
    [n.field, ("manager", kind.text), ("packages", quotedList packages)]
  let result ← n.execute command { packageOptions with noErrorLog := true }
  match Package.unknownPackages kind (result.stdout ++ "\n" ++ result.stderr) packages with
  | [] =>
    let _ ← result.requireSuccess ("failed to install " ++ joinWith " " packages)
  | missing => throw (.missingPackages missing)

def installPackages (packages : List String) : NodeM σ Unit := do
  n.installWith (← n.packageManager) packages

def inRepositoryOf (kind : PackageKind) (package : String) : NodeM σ Bool := do
  n.ensureFresh kind
  let name ← Shell.quote package
  let result ← n.execute (kind.queryCommand name) packageOptions.quiet
  if kind = .apt then
    return result.isSuccess && mentions result.stdout "Candidate:" &&
      !mentions result.stdout "Candidate: (none)"
  else return result.isSuccess

def inRepository (package : String) : NodeM σ Bool := do
  n.inRepositoryOf (← n.packageManager) package

end HostProbe.Node
