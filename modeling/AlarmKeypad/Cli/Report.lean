import AlarmKeypad.Fault.Cli
import AlarmKeypad.Fault.Replay
import AlarmKeypad.Text.Layout
/-!
Faults as a program reports them before it ends: the code, the message and the help, in lines that
fit a terminal.
-/

namespace AlarmKeypad.Cli

/-- The columns that a report may take. -/
def reportWidth : Nat := 80

/-- The report of a fault. -/
def report (code : Option String) (message : String) (help : Option String) : String :=
  String.join (code.map fun c => c ++ "\n\n").toList ++
    Text.layText (reportWidth - 2) "  x " "  | " message ++
    String.join (help.map (Text.layText (reportWidth - 4) "  help: " "        ")).toList ++ "\n"

end AlarmKeypad.Cli

namespace AlarmKeypad

def CliFault.report (f : CliFault) : String := Cli.report f.code? f.message f.help?

def ReplayFault.report (f : ReplayFault) : String := Cli.report (some f.code) f.message f.help?

end AlarmKeypad
