/-! # What a run shows

Results go to the output and failures of single items to the errors. A part of a line can have a
style. -/

namespace HostProbe.Cli

structure Screen where
  out : String := ""
  err : String := ""
  deriving DecidableEq, Repr

inductive Style where
  | cyan
  | red
  | dimmed
  deriving DecidableEq, Repr

namespace Style

def opening : Style → String
  | .cyan => "\x1b[36m"
  | .red => "\x1b[31m"
  | .dimmed => "\x1b[2m"

def closing : Style → String
  | .dimmed => "\x1b[0m"
  | _ => "\x1b[39m"

def paint (style : Style) (s : String) : String := style.opening ++ s ++ style.closing

end Style

namespace Screen

def line (s : Screen) (text : String) : Screen := { s with out := s.out ++ text ++ "\n" }

def heading (s : Screen) (text : String) : Screen := (s.line "").line text

def entry (s : Screen) (name value : String) : Screen := s.line ("  " ++ name ++ ": " ++ value)

def success (s : Screen) (text : String) : Screen := s.line ("✓ " ++ text)

def hint (s : Screen) (text : String) : Screen := s.line ("ℹ " ++ text)

def failure (s : Screen) (text : String) : Screen := { s with err := s.err ++ "✗ " ++ text ++ "\n" }

end Screen

end HostProbe.Cli
