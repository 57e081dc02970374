import HostProbe.Fault
import HostProbe.Text.Blank

/-! # Failures of a run

A run that fails says what could not be done and why. The causes stand below the message, with
numbers if there is more than one. -/

namespace HostProbe.Cli

open HostProbe.Text

structure Failure where
  message : String
  causes : List String := []
  deriving DecidableEq, Repr

namespace Failure

def ofFault (f : Fault) : Failure := ⟨f.message, f.source?.toList⟩

def during (what : String) (f : Fault) : Failure := ⟨what, f.message :: f.source?.toList⟩

def inset (first others : String) (cause : String) : String :=
  first ++ String.intercalate ("\n" ++ others) ((splitAt '\n' cause.toList).map String.ofList)

def numbered (n : Nat) : List String → List String
  | [] => []
  | cause :: causes =>
    inset ("    " ++ toString n ++ ": ") "       " cause :: numbered (n + 1) causes

def listed : List String → List String
  | [cause] => [inset "    " "    " cause]
  | causes => numbered 0 causes

def text (f : Failure) : String :=
  if f.causes.isEmpty then f.message
  else String.intercalate "\n" ([f.message, "", "Caused by:"] ++ listed f.causes)

end Failure

end HostProbe.Cli
