import BlockAudit.BlockFile
import BlockAudit.Conventions
import BlockAudit.Error
import BlockAudit.Fix.Step
import BlockAudit.Json.Printer
import BlockAudit.Report
import BlockAudit.Settings

/-!
# Schemas

JSON schemas of the two documents that other programs deal with: reports and settings.
-/

namespace BlockAudit

namespace Schema

/-- Strings as a JSON list. -/
def strings (values : List Text) : Json := .array (values.map .string)

/-- One field. -/
def field (key : Text) (value : Json) : Json.Fields := [(key, value)]

/-- The fields that name a type. -/
def ofType (name : Text) : Json.Fields := field "type" (.string name)

/-- The fields that refer to a definition. -/
def ofDefinition (name : Text) : Json.Fields := [("$ref", .string ("#/$defs/" ++ name))]

/-- The fields of a list of items of a definition. -/
def listOf (name : Text) : Json.Fields :=
  ofType "array" ++ field "items" (.object (ofDefinition name))

/-- The fields with a description in front. -/
def described (description : Text) (fields : Json.Fields) : Json.Fields :=
  ("description", .string description) :: fields

/-- The fields with a default value after them. -/
def withDefault (fields : Json.Fields) (value : Json) : Json.Fields := fields ++ field "default" value

/-- The fields of an object whose fields have the given schemas. -/
def objectOf (properties : List (Text × Json.Fields)) : Json.Fields :=
  ofType "object" ++
    field "properties" (.object (properties.map fun (key, fields) => (key, .object fields)))

/-- The fields of an object, some of whose fields are required. -/
def requiring (fields : Json.Fields) (keys : List Text) : Json.Fields :=
  fields ++ field "required" (strings keys)

/-- The fields of a choice between constants, each with a description. -/
def oneOf (choices : List (Text × Text)) : Json.Fields :=
  [("oneOf", .array (choices.map fun (value, description) =>
    .object (described description (ofType "string" ++ field "const" (.string value)))))]

/-- A schema with its title and its definitions. -/
def document (title description : Text) (fields : Json.Fields)
    (definitions : List (Text × Json.Fields)) : Json :=
  .object (field "$schema" (.string "https://json-schema.org/draft/2020-12/schema") ++
    field "title" (.string title) ++ described description fields ++
    field "$defs" (.object (definitions.map fun (name, fields) => (name, .object fields))))

/-- What an outcome of a run means. -/
def statusMeaning : Status → Text
  | .clean => "No violations at any stage"
  | .fixed => "Violations were found and auto-fix resolved all of them"
  | .failed => "Violations remain after auto-fix"

/-- What a step of the fix changes. -/
def stepMeaning : FixStep → Text
  | .keywords => "Sentinel keyword first, no duplicates"
  | .legacyAssetPaths => "`index.js` / `index.css` asset paths"
  | .exampleAttribute => "`isExample` boolean attribute"
  | .assetLists => "Scalar asset references become canonical lists"
  | .configBlockName => "`'BLOCK_NAME'` constant in config.php"
  | .registration => "`register_block_type` name and directory literals"
  | .renderConfigInclude => "config.php include in render.php"
  | .styleStart => "Fallback rule carrying the class prefix"
  | .renderNamespace => "Namespace declaration in render.php"
  | .wrapperClassesJoin => "`implode()` around wrapper classes"

/-- What a policy does. -/
def policyMeaning : Policy → Text
  | .warn => "Report and continue"
  | .strict => "Fail the request"

/-- The schema of a violation. -/
def violation : Json.Fields :=
  described "A broken invariant" (requiring
    (objectOf [
      ("code", described "Stable rule code, e.g. `SSOT004`" (ofType "string")),
      ("section", described "File the violation was found in" (ofDefinition "SectionName")),
      ("message", ofType "string")])
    ["code", "section", "message"])

/-- The schema of an applied step. -/
def appliedFix : Json.Fields :=
  described "A fix that changed the bundle" (requiring
    (objectOf [("step", ofDefinition "FixStep"), ("description", ofType "string")])
    ["step", "description"])

/-- The schema of reports. -/
def report : Json :=
  document "ComplianceReport" "Record of one validate / fix / re-validate run"
    (requiring
      (objectOf [
        ("block", described "Block identifier, empty when the metadata has none" (ofType "string")),
        ("input_digest", described "SHA256 of the input, hex encoded" (ofType "string")),
        ("generated_at", ofType "string"),
        ("status", ofDefinition "ReportStatus"),
        ("before", described "Violations found on the parsed bundle" (ofDefinition "ViolationList")),
        ("fixes",
          described "Fixes that changed the bundle, in application order" (listOf "AppliedFix")),
        ("after", described "Violations left on the fixed bundle" (ofDefinition "ViolationList")),
        ("tool_version",
          described "cmblocks version that produced the report" (ofType "string"))])
      ["block", "input_digest", "generated_at", "status", "before", "fixes", "after",
        "tool_version"])
    [("ReportStatus",
        described "Overall outcome of a run"
          (oneOf (Status.all.map fun status => (status.name, statusMeaning status)))),
      ("ViolationList", described "Ordered result of one validation pass" (listOf "Violation")),
      ("Violation", violation),
      ("SectionName",
        described "One of the seven files of a block bundle"
          (ofType "string" ++ field "enum" (strings (BlockFile.all.map BlockFile.fileName)))),
      ("AppliedFix", appliedFix),
      ("FixStep",
        described "One auto-fix, in application order"
          (oneOf (FixStep.all.map fun step => (step.name, stepMeaning step))))]

/-- The keys of the naming conventions in the settings, each with its meaning and its default. -/
def conventionKeys : List (Text × Text × Text) :=
  let default : Conventions := {}
  [("namespace",
      "Block namespace, without the trailing slash (`cm` -> `cm/my-block`)",
      default.blockNamespace),
    ("title_prefix", "Required prefix of the block title", default.titleStart),
    ("category", "Required block category", default.category),
    ("keyword", "Keyword that must lead the keyword list", default.keyword),
    ("class_prefix", "CSS class prefix, without the leading dot", default.classStart),
    ("php_namespace", "PHP namespace root for render callbacks", default.phpRoot),
    ("blocks_dir", "Theme directory that holds the block folders", default.blocksDir)]

/-- The schema of the naming conventions. -/
def conventions : Json.Fields :=
  described "Naming conventions shared by the validator and the auto-fixer"
    (objectOf (conventionKeys.map fun (key, meaning, default) =>
      (key, withDefault (described meaning (ofType "string")) (.string default))))

/-- The schema of the pipeline's settings. -/
def pipeline : Json.Fields :=
  described "Pipeline configuration" (objectOf [
    ("policy",
      withDefault (described "Violation policy after auto-fix" (ofDefinition "Policy"))
        (.string Policy.warn.name)),
    ("strip_fences",
      withDefault
        (described "Strip Markdown code fences wrapped around section bodies" (ofType "boolean"))
        (.bool true))])

/-- The schema of settings. -/
def settings : Json :=
  document "CmBlocksConfig" ("Root configuration (`" ++ settingsFile ++ "`)")
    (requiring
      (objectOf [
        ("version",
          described "Schema version for migrations"
            (ofType "integer" ++ field "format" (.string "uint32") ++
              field "minimum" (.number (.whole 0)))),
        ("conventions",
          withDefault
            (described "Naming conventions the generated bundle must follow"
              (ofDefinition "Conventions"))
            (.object (conventionKeys.map fun (key, _, default) => (key, .string default)))),
        ("pipeline",
          withDefault (described "Pipeline behaviour" (ofDefinition "PipelineConfig"))
            (.object [("policy", .string Policy.warn.name), ("strip_fences", .bool true)]))])
      ["version"])
    [("Conventions", conventions),
      ("PipelineConfig", pipeline),
      ("Policy",
        described "What to do with violations that survive the auto-fix pass"
          (oneOf ([Policy.warn, .strict].map fun policy => (policy.name, policyMeaning policy))))]

end Schema

end BlockAudit
