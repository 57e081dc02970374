import HostProbe.Node.Execute

/-! # Getting and building sources

Downloads, archives, checkouts and `make install`. The name of a download or a checkout is the last
part of its address, unless another is given. -/

namespace HostProbe

open HostProbe.Text

variable {σ : Type} (n : Node σ)

def withoutEndSlashes (s : String) : String :=
  String.ofList (dropRightWhile (· == '/') s.toList)

def addressName (url : String) : Except Fault String :=
  let name := ((splitAt '/' (withoutEndSlashes url).toList).getLast?).getD []
  if name.isEmpty || name.contains ':' then
    .error (.invalidArgument ("cannot derive a file name from " ++ url))
  else .ok (String.ofList name)

def nameOr (given : Option String) (url : String) : Except Fault String :=
  match given with
  | some name => .ok name
  | none => addressName url

namespace Wget

/-- Downloads a file into a directory and tells its path; a file that is there is kept unless
`overwrite` is set. -/
def get (url dir : String) (fileName : Option String) (overwrite asRoot : Bool) :
    NodeM σ String := do
  let name ← nameOr fileName url
  let path := withoutEndSlashes dir ++ "/" ++ name
  let present ← if overwrite then pure false else n.pathExists path
  if present then return path
  else
    let dirArg ← Shell.quote dir
    let urlArg ← Shell.quote url
    let pathArg ← Shell.quote path
    let opts : ExecOptions := { asRoot, shell := true }
    let _ ← n.execute ("mkdir -p " ++ dirArg ++ " && wget " ++ urlArg ++ " -O " ++ pathArg)
      (opts.successOr ("failed to download " ++ url))
    return path

end Wget

namespace Tar

def extract (file dest : String) (gzip asRoot : Bool) : NodeM σ Unit := do
  let destArg ← Shell.quote dest
  let fileArg ← Shell.quote file
  let opts : ExecOptions := { asRoot, shell := true }
  let _ ← n.execute ("mkdir -p " ++ destArg ++ " && tar " ++ (if gzip then "-xzf " else "-xf ") ++
    fileArg ++ " -C " ++ destArg) (opts.successOr ("failed to extract " ++ file))

def rootFolder (file : String) : NodeM σ String := do
  let arg ← Shell.quote file
  let opts : ExecOptions := { shell := true, noInfoLog := true }
  let result ← n.execute ("tar tf " ++ arg ++ " | sed -e 's@/.*@@' | uniq")
    (opts.successOr ("failed to list " ++ file))
  match (result.lines.map trimmed).find? (!·.isEmpty) with
  | some root => return root
  | none => throw (.conditionNotMet ("archive " ++ file ++ " is empty"))

end Tar

namespace Make

def timeoutMs : Nat := 1800000

def install (dir : String) (asRoot : Bool) : NodeM σ Unit := do
  let opts : ExecOptions := { asRoot, shell := true, dir := some dir, timeoutMs := some timeoutMs }
  let _ ← n.execute "make install" (opts.successOr ("failed to make install in " ++ dir))

end Make

namespace Git

def withoutSuffix (s : String) : String :=
  String.ofList (go s.length s.toList.reverse).reverse
where
  go : Nat → List Char → List Char
    | fuel + 1, 't' :: 'i' :: 'g' :: '.' :: rest => go fuel rest
    | _, r => r

def clone (url dir : String) (dirName : Option String) : NodeM σ String := do
  let name ← match dirName with
    | some name => pure name
    | none => withoutSuffix <$> addressName url
  let urlArg ← Shell.quote url
  let nameArg ← Shell.quote name
  let opts : ExecOptions := { dir := some dir }
  let _ ← n.execute ("git clone " ++ urlArg ++ " " ++ nameArg)
    (opts.successOr ("failed to clone " ++ url))
  return withoutEndSlashes dir ++ "/" ++ name

end Git

end HostProbe
