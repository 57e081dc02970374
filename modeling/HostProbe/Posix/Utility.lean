import HostProbe.Posix.Utility.Columns
import HostProbe.Posix.Utility.Contents
import HostProbe.Posix.Utility.Editing
import HostProbe.Posix.Utility.Encoding
import HostProbe.Posix.Utility.Files
import HostProbe.Posix.Utility.Launching
import HostProbe.Posix.Utility.Letters
import HostProbe.Posix.Utility.Lines
import HostProbe.Posix.Utility.Search
import HostProbe.Posix.Utility.Sum
import HostProbe.Posix.Utility.Surroundings
import HostProbe.Posix.Utility.Writing

/-! # The programs of every machine

The utilities by their names. -/

namespace HostProbe.Posix

def utility? : String → Option (Invocation → Effect)
  | "true" => some fun _ => {}
  | "false" => some fun _ => { status := 1 }
  | "[" => some Invocation.condition
  | "base64" => some Invocation.base64
  | "basename" => some Invocation.basename
  | "cat" => some Invocation.cat
  | "chmod" => some Invocation.chmod
  | "cp" => some (Invocation.transfer · false)
  | "cut" => some Invocation.cut
  | "dirname" => some Invocation.dirname
  | "echo" => some Invocation.echo
  | "egrep" => some (Invocation.grep · (some 'E'))
  | "expr" => some Invocation.expr
  | "fgrep" => some (Invocation.grep · (some 'F'))
  | "fold" => some Invocation.fold
  | "grep" => some (Invocation.grep · none)
  | "head" => some Invocation.head
  | "id" => some Invocation.id
  | "ls" => some Invocation.ls
  | "mkdir" => some Invocation.mkdir
  | "mv" => some (Invocation.transfer · true)
  | "nl" => some Invocation.nl
  | "od" => some Invocation.od
  | "paste" => some Invocation.paste
  | "printenv" => some Invocation.printenv
  | "printf" => some Invocation.printf
  | "pwd" => some Invocation.pwd
  | "readlink" => some Invocation.readlink
  | "realpath" => some Invocation.realpath
  | "rev" => some Invocation.rev
  | "rm" => some Invocation.rm
  | "rmdir" => some Invocation.rmdir
  | "sed" => some Invocation.sed
  | "seq" => some Invocation.seq
  | "sleep" => some Invocation.sleep
  | "sort" => some Invocation.sort
  | "sync" => some fun _ => {}
  | "tac" => some Invocation.tac
  | "tail" => some Invocation.tail
  | "tee" => some Invocation.tee
  | "test" => some Invocation.condition
  | "touch" => some Invocation.touch
  | "tr" => some Invocation.tr
  | "uname" => some Invocation.uname
  | "uniq" => some Invocation.uniq
  | "wc" => some Invocation.wc
  | "which" => some Invocation.which
  | "whoami" => some Invocation.whoami
  | "yes" => some Invocation.yes
  | _ => none

def plan? (signalOf : String → Option (Nat × String)) : String → Option (Invocation → LaunchPlan)
  | "env" => some Invocation.envPlan
  | "nice" => some Invocation.nicePlan
  | "nohup" => some Invocation.nohupPlan
  | "timeout" => some (Invocation.timeoutPlan · signalOf)
  | "xargs" => some Invocation.xargsPlan
  | _ => none

end HostProbe.Posix
