import BlockAudit.Pattern

/-!
# Forms of words in PHP sources

The places of a PHP source that rules and fixes look for: the statement that loads the configuration,
function definitions, the block's name in its two literals, the first documentation comment, a
namespace declaration, and wrapper classes that are printed as they are.
-/

namespace BlockAudit

namespace Php

open Reader

/-- The statement that loads `config.php` from the directory of the source itself. -/
def configInclude : Reader := seq [
  either (word "require") (word "include"), maybe (word "_once"), blanks, maybe (word "("), blanks,
  either
    (seq [word "__DIR__", blanks, word ".", blanks, quoteMark, word "/config.php", quoteMark])
    (seq [word "plugin_dir_path(", blanks, word "__FILE__", blanks, word ")", blanks, word ".",
      blanks, quoteMark, word "config.php", quoteMark])]

/-- The source loads `config.php`. -/
def includesConfig (source : Text) : Bool := configInclude.occursIn source

/-- A character that a function's name may begin with. -/
def isNameStart (c : Char) : Bool := Text.isAsciiLetter c || c == '_'

/-- A character of a function's name. -/
def isNameChar (c : Char) : Bool := isNameStart c || Text.isAsciiDigit c

/-- The definition of a function, up to the bracket that opens its parameters; its value is the
function's name. -/
def functionDefinition : Pattern Text := fun before s =>
  if Text.atBoundary before then do
    let s ← seq [word "function", blanks1] s
    let rest ← seq [one isNameStart, many isNameChar] s
    let after ← seq [blanks, word "("] rest
    return (s.take (s.length - rest.length), after)
  else none

/-- The names of the functions that a source defines. -/
def definedFunctions (source : Text) : List Text := functionDefinition.hits source

/-- The key of the block's name in the configuration, with its value. -/
def blockNameEntry : Reader :=
  seq [quoteMark, word "BLOCK_NAME", quoteMark, blanks, word "=>", blanks, quoted]

/-- The call that registers a block, up to the end of the block's name. -/
def registerCall : Reader := seq [word "register_block_type(", blanks, quoted]

/-- The declaration of a namespace, at the start of a line; its white space may cross lines. -/
def namespaceDeclaration : Reader :=
  seq [blanks, word "namespace", blanks1, one fun c => Text.isAsciiLetter c || c == '_' || c == '\\']

/-- The source declares a namespace. -/
def declaresNamespace (source : Text) : Bool := namespaceDeclaration.occursAtLineStart true source

/-- The tag that opens PHP code. -/
def openTag : Text := "<?php"

/-- White space and the start of a documentation comment. -/
def commentStart : Reader := seq [blanks, word "/**"]

/-- The text before the first place where white space and a documentation comment begin, and the text
from there on. -/
def splitAtComment? (s : Text) : Option (Text × Text) :=
  if (commentStart s).isSome then some ([], s)
  else match s with
    | [] => none
    | c :: rest => (splitAtComment? rest).map fun (head, tail) => (c :: head, tail)

/-- The text before the white space in front of the first documentation comment after the first
opening tag, and the text from there on. -/
def splitAtDocComment? (source : Text) : Option (Text × Text) := do
  let (head, code) ← Text.cut? openTag source
  let (code, tail) ← splitAtComment? code
  return (head ++ openTag ++ code, tail)

/-- Wrapper classes that are escaped without being joined. -/
def rawWrapperClasses : Reader :=
  seq [word "esc_attr(", blanks, word "$wrapper_classes", blanks, word ")"]

end Php

end BlockAudit
