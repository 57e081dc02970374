/-! # Signals

A signal has a number and a name. Most of them end the program that they are sent to. -/

namespace HostProbe.Posix.Signal

def names : List (Nat × String) :=
  let first := ["EXIT", "HUP", "INT", "QUIT", "ILL", "TRAP", "ABRT", "BUS", "FPE", "KILL", "USR1",
    "SEGV", "USR2", "PIPE", "ALRM", "TERM", "STKFLT", "CHLD", "CONT", "STOP", "TSTP", "TTIN",
    "TTOU", "URG", "XCPU", "XFSZ", "VTALRM", "PROF", "WINCH", "IO", "PWR", "SYS", "32", "33",
    "RTMIN"]
  let low := (List.range 15).map fun n => "RTMIN+" ++ toString (n + 1)
  let high := (List.range 14).map fun n => "RTMAX-" ++ toString (14 - n)
  (first ++ low ++ high ++ ["RTMAX"]).zipIdx.map fun (name, n) => (n, name)

def ofText? (text : String) : Option (Nat × String) :=
  let cs := text.toList
  if !cs.isEmpty && cs.all Char.isDigit then
    names.find? (·.1 == cs.foldl (fun n c => n * 10 + (c.toNat - 48)) 0)
  else names.find? (·.2 == String.ofList (cs.map Char.toUpper))

def harmless : List Nat := [17, 18, 23, 28]

def stopping : List Nat := [19, 20, 21, 22]

def text? (signal : Nat) : Option String :=
  match signal with
  | 1 => some "Hangup"
  | 3 => some "Quit"
  | 4 => some "Illegal instruction"
  | 5 => some "Trace/breakpoint trap"
  | 6 => some "Aborted"
  | 7 => some "Bus error"
  | 8 => some "Floating point exception"
  | 9 => some "Killed"
  | 10 => some "User defined signal 1"
  | 11 => some "Segmentation fault"
  | 12 => some "User defined signal 2"
  | 14 => some "Alarm clock"
  | 15 => some "Terminated"
  | 16 => some "Stack fault"
  | 24 => some "CPU time limit exceeded"
  | 25 => some "File size limit exceeded"
  | 26 => some "Virtual timer expired"
  | 27 => some "Profiling timer expired"
  | 29 => some "I/O possible"
  | 30 => some "Power failure"
  | 31 => some "Bad system call"
  | n => if 34 ≤ n then some ("Real-time signal " ++ toString (n - 34)) else none

end HostProbe.Posix.Signal
