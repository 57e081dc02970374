import HostProbe.Node.Execute

/-! # Kernel modules -/

namespace HostProbe

open HostProbe.Text

variable {σ : Type} (n : Node σ)

def sriovModules : List String := ["mlx4_core", "mlx4_en", "mlx5_core", "ixgbevf"]

def reloadModules? : String → Option (List String)
  | "mlx5_core" => some ["mlx5_ib"]
  | "mlx4_core" => some ["mlx4_en", "mlx4_ib"]
  | _ => none

namespace Lsmod

def isLoaded (name : String) (force : Bool) : NodeM σ Bool := do
  let opts : ExecOptions := { asRoot := true, noInfoLog := true, forceRun := force }
  let result ← n.executeCached "lsmod" (opts.successOr "failed to list kernel modules")
  return (result.lines.filterMap fun line => (wordsOf line).head?).contains name

end Lsmod

namespace Modprobe

def load (name : String) : NodeM σ Unit := do
  let arg ← Shell.quote name
  let opts : ExecOptions := { asRoot := true }
  let _ ← n.execute ("modprobe " ++ arg) (opts.successOr ("failed to load " ++ name))

def remove : List String → NodeM σ Unit
  | [] => return ()
  | name :: rest => do
    let arg ← Shell.quote name
    let opts : ExecOptions := { asRoot := true }
    let _ ← n.execute ("modprobe -r " ++ arg) (opts.successOr ("failed to remove " ++ name))
    remove rest

end Modprobe

end HostProbe
