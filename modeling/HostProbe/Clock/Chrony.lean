import HostProbe.Retry.Report
import HostProbe.Tool.Files
import HostProbe.Tool.Registry
import HostProbe.Tool.Service

/-! # Time synchronization

The service has a name of its own on the Debian family. -/

namespace HostProbe.Chrony

open HostProbe.Text

variable {σ : Type} (n : Node σ)

def variants : VariantTable String where
  tool := "chrony"
  entries := [⟨.debian, "ChronyDebian", "chrony"⟩]
  fallback := some ⟨.unknown, "Chrony", "chronyd"⟩

def entry : ToolEntry σ where
  ref := .chrony
  dependencies := []
  create os _ := (variants.select os).map fun v => ⟨"chronyc", true, .chrony v.hooks⟩
  probe := Tool.probeCommand
  install := Tool.installPackages ["chrony"]

def service : Procedure σ String := do
  let t ← Procedure.tool .chrony
  match t.detail with
  | .chrony service => return service
  | _ => throw (.toolTypeMismatch t.id)

def restart (service : String) : Procedure σ Unit := do
  let _ ← Procedure.tool .service
  Service.restart n service

def configPaths : List String :=
  ["/etc/chrony.conf", "/etc/chrony/chrony.conf", "/etc/chrony.d/azure.conf"]

def present : List String → NodeM σ (List String)
  | [] => return []
  | path :: rest => do
    if ← n.pathExists path then return path :: (← present rest) else present rest

def configFiles : NodeM σ (List String) := present n configPaths

def allMentionHostClock : List String → NodeM σ Bool
  | [] => return true
  | path :: rest => do
    if mentions (← Cat.read n path true false) "ptp_hyperv" then allMentionHostClock rest
    else return false

def usesHostClock : Procedure σ Bool := do
  let _ ← Procedure.tool .cat
  let files ← configFiles n
  allMentionHostClock n files

def ask (question : String) : NodeM σ String := do
  let opts : ExecOptions := {}
  let result ← n.execute ("chronyc " ++ question)
    (opts.successOr ("chronyc " ++ question ++ " failed"))
  return result.stdout

def sources : NodeM σ String := ask n "sources"

def sourceStats : NodeM σ String := ask n "sourcestats"

def tracking : NodeM σ String := do
  let result ← n.execute "chronyc tracking" (ExecOptions.quiet {})
  if !result.isSuccess || mentions result.stdout "Not synchronised" then
    throw (.conditionNotMet "chrony is not synchronised")
  else return result.stdout

def checkTracking (c : Config) : NodeM σ String :=
  Node.untilMet "chrony-tracking" (c.retryPolicy "chrony-tracking") (tracking n)

end HostProbe.Chrony
