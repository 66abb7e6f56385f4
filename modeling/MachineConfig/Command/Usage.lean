import MachineConfig.Command.Arguments

/-!
How the program is used.
-/

namespace MachineConfig.Command

/-- How an option is written. -/
def Switch.usage (s : Switch) : String :=
  let letter := match s.letter with
    | some c => s!"-{c}, "
    | none => ""
  letter ++ "--" ++ s.name ++ if s.takesValue then " VALUE" else ""

/-- The lines of the help. -/
def helpLines : List String :=
  ["Usage: dotplate [OPTIONS] COMMAND [ARGS]...", "", "Options:"] ++
    programSwitches.map (fun s => "  " ++ s.usage) ++ ["", "Commands:"] ++
    specs.map fun s =>
      let switches := s.switches.map fun o => s!" [{o.usage}]"
      let arguments := if s.takesArguments then " [TEMPLATES]..." else ""
      "  " ++ s.name ++ String.join switches ++ arguments

end MachineConfig.Command
