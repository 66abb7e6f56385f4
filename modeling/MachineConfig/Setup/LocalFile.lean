import MachineConfig.Layers.Environment
import MachineConfig.Setup.IgnoreFile

/-!
Setting up a machine: a local variables file to start from, kept out of version control.
-/

namespace MachineConfig.Setup

/-- The text of a new local variables file. -/
def starterText (hostname : String) : String :=
  String.join (lines.map (· ++ "\n"))
where
  lines : List String := [
    s!"# Machine-specific template variables for {hostname}.",
    "# This file is git-ignored; values here override templates/_variables.yaml.",
    "#",
    "# Precedence (highest first):",
    s!"#   1. Environment variables ({Environment.variableStart}*)",
    "#   2. This file",
    "#   3. machine_types.<type> in _variables.yaml",
    "#   4. vars in _variables.yaml",
    "#   5. Auto-detected values (hostname, os, arch, user, ...)",
    "",
    "vars:",
    "  git_name: \"\"",
    "  git_email: \"\"",
    "  # aws_profile: default",
    "",
    "# machine_types:",
    "#   work:",
    "#     git_email: you@company.com",
    "",
    "# arrays:",
    "#   ssh_hosts:",
    "#     - \"github|github.com|git|~/.ssh/id_ed25519|\"",
    "",
    "# schemas:",
    "#   ssh_hosts: [name, hostname, user, identity, extra]"]

/-- The name of a machine that has none. -/
def namelessMachine : String := "this machine"

/-- Writes a new local variables file; one that is there is only overwritten with force. -/
def scaffold (store : Store) (now : Int) (l : Layout) (hostname : String) (force : Bool) :
    Store × Except Failure Path :=
  let file := l.localFile
  match store.contains file with
  | .error fault => (store, .error (.host fault))
  | .ok isThere =>
    if isThere && !force then (store, .error (.alreadyInitialized file))
    else match store.makeDirectories now file.parent with
    | (store, .error fault) => (store, .error (.host fault))
    | (store, .ok ()) =>
      match store.overwrite now file (starterText hostname) with
      | (store, .error fault) => (store, .error (.host fault))
      | (store, .ok ()) =>
        match ensureIgnored store now l with
        | (store, .error fault) => (store, .error (.host fault))
        | (store, .ok ()) => (store, .ok file)

end MachineConfig.Setup
