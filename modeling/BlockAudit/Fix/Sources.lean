import BlockAudit.BlockName
import BlockAudit.Pattern.Php

/-!
# Fixes of the sources

Each fix answers with the changed source and the change in words, or with nothing when there is
nothing to change.
-/

namespace BlockAudit

namespace Fix

/-- The changed source, unless it is the source as it was. -/
def ifChanged (source changed description : Text) : Option (Text × Text) :=
  if changed = source then none else some (changed, description)

/-- Names the block in the configuration. A name that needs escapes in a literal is not written. -/
def configBlockName (name : BlockName) (source : Text) : Option (Text × Text) :=
  if name.isLiteralSafe then
    ifChanged source
      (Php.blockNameEntry.matched.replaceAll ("'BLOCK_NAME' => '" ++ name.identifier ++ ['\'']) source)
      ("Corrected BLOCK_NAME to '" ++ name.identifier ++ "' in config.php")
  else none

/-- Names the block in the calls that register it. -/
def registeredName (name : BlockName) (source : Text) : Text :=
  if name.isLiteralSafe then
    Php.registerCall.matched.replaceAll ("register_block_type('" ++ name.identifier ++ ['\'']) source
  else source

/-- The directory that blocks are no longer in, up to the start of their classes. -/
def legacyDir (c : Conventions) : Text := "/blocks/" ++ c.classStart

/-- The directory of the blocks, up to the start of their classes. -/
def blockDir (c : Conventions) : Text := ['/'] ++ c.blocksDir ++ ['/'] ++ c.classStart

/-- Replaces the legacy directory, unless the current one would bring it in again. -/
def registeredDirs (c : Conventions) (source : Text) : Text :=
  if Text.occurs (legacyDir c) (blockDir c) then source
  else Text.replace (legacyDir c) (blockDir c) source

/-- Corrects the block's name and its directories in the registration. -/
def registration (name : BlockName) (c : Conventions) (source : Text) : Option (Text × Text) :=
  ifChanged source (registeredDirs c (registeredName name source))
    "Corrected block registration and paths in registering.php"

/-- The statement that loads the configuration. -/
def configRequire : Text := "require_once __DIR__ . '/config.php';"

/-- The list with `new` after its first member with the property `p`. -/
def insertAfterFirst {α : Type} (p : α → Bool) (new : α) : List α → Option (List α)
  | [] => none
  | x :: xs => if p x then some (x :: new :: xs) else (insertAfterFirst p new xs).map (x :: ·)

/-- Loads the configuration on a line of its own after the first opening tag. -/
def renderConfigInclude (source : Text) : Option (Text × Text) :=
  if Php.includesConfig source then none
  else do
    let lines ← insertAfterFirst (Text.occurs Php.openTag) configRequire (Text.splitOn '\n' source)
    return (Text.joinWith ['\n'] lines, "Added config.php require to render.php")

/-- A style rule without declarations. -/
def emptyStyleRule (cssClass : Text) : Text :=
  ['.'] ++ cssClass ++ " \x7b\n  /* Block styles */\n\x7d\n\n"

/-- Puts an empty rule for the block's class in front of a style sheet without a prescribed class. -/
def styleStart (name : BlockName) (c : Conventions) (source : Text) : Option (Text × Text) :=
  if name.slug.isEmpty || Text.occurs c.selectorStart source then none
  else
    some (emptyStyleRule (name.cssClass c) ++ source,
      "Added ." ++ name.cssClass c ++ " class to CSS")

/-- The declaration of a namespace, with an empty line before it. -/
def namespaceLines (phpNamespace : Text) : Text := "\n\nnamespace " ++ phpNamespace ++ ";\n"

/-- Declares the block's namespace before the first documentation comment. -/
def renderNamespace (name : BlockName) (c : Conventions) (source : Text) : Option (Text × Text) :=
  if name.slug.isEmpty || Php.declaresNamespace source then none
  else do
    let (head, tail) ← Php.splitAtDocComment? source
    return (head ++ namespaceLines (name.phpNamespace c) ++ tail,
      "Added namespace " ++ name.phpNamespace c ++ " to render.php")

/-- Wrapper classes, joined before they are escaped. -/
def joinedWrapperClasses : Text := "esc_attr( implode( ' ', $wrapper_classes ) )"

/-- Joins wrapper classes that are escaped as they are. -/
def wrapperClassesJoin (source : Text) : Option (Text × Text) :=
  ifChanged source (Php.rawWrapperClasses.matched.replaceAll joinedWrapperClasses source)
    "Added implode() for wrapper classes array"

end Fix

end BlockAudit
