import BlockAudit.Settings
import BlockAudit.Yaml.Printer

/-!
# Printed settings

The settings as a YAML document with all their keys, one to a line, under a heading.
-/

namespace BlockAudit

namespace Settings

/-- The heading of a settings document. -/
def heading : Text := "# cmblocks configuration\n\n"

/-- The line of a key inside a group, with a text as its value. -/
def textLine (key value : Text) : Text := "  " ++ key ++ ": " ++ Yaml.printLine 4 value

/-- The lines of the naming conventions. -/
def conventionLines (c : Conventions) : Text :=
  "conventions:\n" ++
    textLine "namespace" c.blockNamespace ++
    textLine "title_prefix" c.titleStart ++
    textLine "category" c.category ++
    textLine "keyword" c.keyword ++
    textLine "class_prefix" c.classStart ++
    textLine "php_namespace" c.phpRoot ++
    textLine "blocks_dir" c.blocksDir

/-- The settings as a YAML document. -/
def toYaml (s : Settings) : Text :=
  heading ++ "version: " ++ Text.ofNat s.version.toNat ++ ['\n'] ++ conventionLines s.conventions ++
    "pipeline:\n" ++ textLine "policy" s.policy.name ++
    "  strip_fences: " ++ (if s.stripFences then "true" else "false" : Text) ++ ['\n']

end Settings

end BlockAudit
