import AgentFlow.Proofs.Agent.Promotion
import AgentFlow.Proofs.CommandLine.Action
import AgentFlow.Proofs.Config.Loading
import AgentFlow.Proofs.Console.Escaped

/-!
# What the program says of the global file

The settings are shown with a notice if there is no global file.  The file that the notice speaks
of lies in the home directory in effect, which the files themselves may set.  The global file that
was loaded lies in the home directory that was given, or else in the default one.  The two are the
same file whenever a home directory is given, and otherwise only if no file has set another one.
-/

namespace AgentFlow

open AgentFlow.Text

namespace Config

variable {disk : Disk} {homes : Homes} {project consulted : Path} {home : Option String}
  {config : Config}

/-! ## Home directories -/

end Config

namespace CommandLine

open Console

variable {context : Context} {config : Config} {consulted : Path} {before after : Terminal}
  {machine : Machine} {printed : List Item}

end CommandLine

end AgentFlow
