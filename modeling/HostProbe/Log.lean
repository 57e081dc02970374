/-! # Log events

What a program reports beside its results. Fields keep the order in which they are given. -/

namespace HostProbe

inductive LogLevel where
  | info
  | warning
  | failure
  deriving DecidableEq, Repr

def LogLevel.text : LogLevel → String
  | .info => "INFO"
  | .warning => "WARN"
  | .failure => "ERROR"

structure LogEvent where
  level : LogLevel
  message : String
  fields : List (String × String)
  deriving DecidableEq, Repr

end HostProbe
