import MachineConfig.Path

/-!
The layout of a root directory: variables files in `templates`, templates in `templates/configs`,
and in `generated` one file per template, named like it but for the extension.
-/

namespace MachineConfig

structure Layout where
  root : Path
  /-- What the names of templates end in. -/
  extension : String := ".tmpl"
  deriving DecidableEq, Inhabited

namespace Layout

def defaultsName : String := "_variables.yaml"

def localName : String := "_variables.local.yaml"

def variablesDir (l : Layout) : Path := l.root.child "templates"

def templatesDir (l : Layout) : Path := l.variablesDir.child "configs"

def generatedDir (l : Layout) : Path := l.root.child "generated"

def defaultsFile (l : Layout) : Path := l.variablesDir.child defaultsName

def localFile (l : Layout) : Path := l.variablesDir.child localName

def ignoreFile (l : Layout) : Path := l.root.child ".gitignore"

/-- The name has the extension of a template. -/
def isTemplateName (l : Layout) (name : String) : Bool :=
  l.extension.toList.isSuffixOf name.toList

/-- A name without the extension, if it has it. Nothing is left of a name where the extension is
empty. -/
def outputName (l : Layout) (name : String) : String :=
  if l.extension = "" then ""
  else if l.isTemplateName name then
    String.ofList (name.toList.take (name.toList.length - l.extension.toList.length))
  else name

/-- The generated file of a template. -/
def output (l : Layout) (template : Path) : Path :=
  l.generatedDir.child (l.outputName template.name)

end Layout

end MachineConfig
