import BlockAudit.Bundle
import BlockAudit.Pattern.Php
import BlockAudit.Pattern.Script
import BlockAudit.Violation

/-!
# Rules

The twenty-six rules that a block's files have to keep so that its names agree everywhere. Each rule
has a number, the file it is about, a test on bundles, and the words in which a violation is reported.
No rule looks at another.
-/

namespace BlockAudit

/-- The functions that the class of a block's configuration has to define. -/
inductive ConfigMethod
  | defaults
  | assetHandles
  | filePaths
  | sanitizeAttributes
  | wrapperClasses
  | globalCssProperties
  | javascriptConstants
  | cssSelectors
  deriving DecidableEq, Repr

namespace ConfigMethod

/-- The eight functions in the order of their rules. -/
def all : List ConfigMethod :=
  [defaults, assetHandles, filePaths, sanitizeAttributes, wrapperClasses, globalCssProperties,
    javascriptConstants, cssSelectors]

/-- The function's name in the source. -/
def functionName : ConfigMethod → Text
  | defaults => "get_defaults"
  | assetHandles => "get_asset_handles"
  | filePaths => "get_file_paths"
  | sanitizeAttributes => "sanitize_attributes"
  | wrapperClasses => "get_enhanced_wrapper_classes"
  | globalCssProperties => "build_global_css_properties"
  | javascriptConstants => "get_javascript_constants"
  | cssSelectors => "get_css_selectors"

end ConfigMethod

/-- A rule that a block has to keep. -/
inductive Rule
  /-- The block's name is in the conventions' namespace. -/
  | nameInNamespace
  /-- The title starts as prescribed. -/
  | titleStart
  /-- The category is the prescribed one. -/
  | category
  /-- The prescribed keyword is among the keywords. -/
  | keyword
  /-- A boolean attribute marks example blocks. -/
  | exampleAttribute
  /-- The editor's styles refer to the shared style sheet. -/
  | sharedStyleAsset
  /-- The scripts of the page refer to the shared script. -/
  | sharedScriptAsset
  /-- The configuration declares the class that the block's name prescribes. -/
  | configClass
  /-- The configuration defines a function. -/
  | configMethod (method : ConfigMethod)
  /-- The registration loads the configuration. -/
  | registrationInclude
  /-- The registration hands the configuration to scripts. -/
  | localizedConfig
  /-- The registration derives versions from file times. -/
  | fileTimes
  /-- The editor's script is wrapped in a function expression that is called at once. -/
  | wrappedEditorScript
  /-- The editor's script uses the configuration's global variable. -/
  | editorConfig
  /-- The shared script does not register blocks. -/
  | noSharedRegistration
  /-- The shared script uses the configuration's global variable. -/
  | sharedConfig
  /-- The render callback loads the configuration. -/
  | renderInclude
  /-- The render callback calls the class of the configuration. -/
  | renderClass
  /-- The style sheet uses the prescribed classes. -/
  | classStart
  deriving DecidableEq, Repr

namespace Rule

/-- The twenty-six rules in the order of their numbers. -/
def all : List Rule :=
  [nameInNamespace, titleStart, category, keyword, exampleAttribute, sharedStyleAsset,
    sharedScriptAsset, configClass] ++
  ConfigMethod.all.map configMethod ++
  [registrationInclude, localizedConfig, fileTimes, wrappedEditorScript, editorConfig,
    noSharedRegistration, sharedConfig, renderInclude, renderClass, classStart]

/-- The number of a rule. -/
def number : Rule → Nat
  | nameInNamespace => 1
  | titleStart => 2
  | category => 3
  | keyword => 4
  | exampleAttribute => 5
  | sharedStyleAsset => 6
  | sharedScriptAsset => 7
  | configClass => 8
  | configMethod .defaults => 9
  | configMethod .assetHandles => 10
  | configMethod .filePaths => 11
  | configMethod .sanitizeAttributes => 12
  | configMethod .wrapperClasses => 13
  | configMethod .globalCssProperties => 14
  | configMethod .javascriptConstants => 15
  | configMethod .cssSelectors => 16
  | registrationInclude => 17
  | localizedConfig => 18
  | fileTimes => 19
  | wrappedEditorScript => 20
  | editorConfig => 21
  | noSharedRegistration => 22
  | sharedConfig => 23
  | renderInclude => 24
  | renderClass => 25
  | classStart => 26

/-- The code under which a rule is reported. -/
def code (rule : Rule) : Text := "SSOT" ++ Text.ofNatPadded 10 3 rule.number

/-- The file that a rule is about. -/
def file : Rule → BlockFile
  | nameInNamespace | titleStart | category | keyword | exampleAttribute | sharedStyleAsset
  | sharedScriptAsset => .metadata
  | configClass | configMethod _ => .config
  | registrationInclude | localizedConfig | fileTimes => .registration
  | wrappedEditorScript | editorConfig => .editorScript
  | noSharedRegistration | sharedConfig => .sharedScript
  | renderInclude | renderClass => .render
  | classStart => .style

/-- The value of a key is a list with a text that mentions `asset`. -/
def mentionsAsset (metadata : Json.Fields) (key asset : Text) : Bool :=
  ((metadata.get? key).bind Json.array?).any fun items =>
    items.any fun item => item.string?.any (Text.occurs asset)

/-- The value of a key is a list with the given text. -/
def listsText (metadata : Json.Fields) (key text : Text) : Bool :=
  ((metadata.get? key).bind Json.array?).any fun items =>
    items.any fun item => item.string? == some text

/-- The type that the metadata give to the attribute of example blocks. -/
def exampleType? (metadata : Json.Fields) : Option Text := do
  let attributes ← metadata.get? "attributes"
  let flag ← attributes.field? "isExample"
  let type ← flag.field? "type"
  type.string?

/-- The words of a source: letters, numbers and underscores that follow one another. -/
def sourceWords (source : Text) : List Text :=
  Text.runsOf (fun c => Text.isAlphanumeric c || c == '_') source

/-- Two words follow one another in a list. -/
def followedBy (first second : Text) : List Text → Bool
  | a :: b :: rest => (a == first && b == second) || followedBy first second (b :: rest)
  | _ => false

/-- The source declares a class of the given name. -/
def declaresClass (source className : Text) : Bool :=
  followedBy "class" className (sourceWords source)

/-- A bundle keeps a rule under the conventions. -/
def holds (rule : Rule) (b : Bundle) (c : Conventions) : Bool :=
  match rule with
  | nameInNamespace => (b.metadata.string? "name").any (Text.startsWith c.nameStart)
  | titleStart => (b.metadata.string? "title").any (Text.startsWith c.titleStart)
  | category => b.metadata.string? "category" == some c.category
  | keyword => listsText b.metadata "keywords" c.keyword
  | exampleAttribute => exampleType? b.metadata == some "boolean"
  | sharedStyleAsset => mentionsAsset b.metadata "editorStyle" "centralized-css"
  | sharedScriptAsset => mentionsAsset b.metadata "viewScript" "centralized-js"
  | configClass => declaresClass b.config ((b.name c).configClass c)
  | configMethod method => (Php.definedFunctions b.config).contains method.functionName
  | registrationInclude => Php.includesConfig b.registration
  | localizedConfig => Text.occurs "wp_localize_script" b.registration
  | fileTimes => Text.occurs "filemtime(" b.registration
  | wrappedEditorScript => Script.isWrapped b.editorScript
  | editorConfig => Text.occurs ((b.name c).jsGlobal c) b.editorScript
  | noSharedRegistration => !Text.occurs "registerBlockType" b.sharedScript
  | sharedConfig => Text.occurs ((b.name c).jsGlobal c) b.sharedScript
  | renderInclude => Php.includesConfig b.render
  | renderClass => Text.occurs ((b.name c).configClass c ++ "::") b.render
  | classStart => Text.occurs c.selectorStart b.style

/-- The words in which a broken rule is reported. -/
def message (rule : Rule) (name : BlockName) (c : Conventions) : Text :=
  match rule with
  | nameInNamespace =>
    "Block name must use " ++ c.nameStart ++ " namespace (e.g., \"" ++ c.nameStart ++ "my-block\")"
  | titleStart => "Block title must start with \"" ++ c.titleStart ++ "\" prefix"
  | category => "Block category must be \"" ++ c.category ++ ['"']
  | keyword => "Block keywords must include \"" ++ c.keyword ++ ['"']
  | exampleAttribute => "Block must include a boolean isExample attribute for preview support"
  | sharedStyleAsset => "Block must reference centralized CSS in editorStyle"
  | sharedScriptAsset => "Block must reference centralized JS in viewScript"
  | configClass => "config.php must implement " ++ name.configClass c ++ " class"
  | configMethod method =>
    "config.php missing required method: " ++ method.functionName ++ "()"
  | registrationInclude => "registering.php must include config.php"
  | localizedConfig => "registering.php must use wp_localize_script for config sharing"
  | fileTimes => "registering.php must use filemtime() for cache-busting"
  | wrappedEditorScript => "editor.js must be wrapped in IIFE"
  | editorConfig => "editor.js must import configuration from " ++ name.jsGlobal c
  | noSharedRegistration =>
    "centralized.js must NOT contain registerBlockType (should be in editor.js only)"
  | sharedConfig => "centralized.js must import configuration from " ++ name.jsGlobal c
  | renderInclude => "render.php must include config.php"
  | renderClass => "render.php must use " ++ name.configClass c ++ " class methods"
  | classStart => "centralized.css must use " ++ c.selectorStart ++ " class prefixes"

/-- The report of a broken rule. -/
def violation (rule : Rule) (name : BlockName) (c : Conventions) : Violation :=
  ⟨rule.code, rule.file, rule.message name c⟩

end Rule

/-- The violations of a bundle under the conventions, in the order of the rules. -/
def Bundle.violations (b : Bundle) (c : Conventions) : List Violation :=
  (Rule.all.filter fun rule => !rule.holds b c).map fun rule => rule.violation (b.name c) c

end BlockAudit
