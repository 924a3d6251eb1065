import BlockAudit.Section.Line

/-!
# Splitting a response into its sections

One pass over the lines collects every section of a known file, in the order of the response. Line
endings inside a body become single line feeds.
-/

namespace BlockAudit

/-- A section of a response: the file that it is for, and its body. -/
abbrev Section := BlockFile × Text

namespace Section

/-- Where a pass over the lines stands. -/
inductive Position
  /-- Outside every section of a known file. -/
  | outside
  /-- After a bare sentinel, before the name of the section. -/
  | expectingName
  /-- In the body of a section, with the text read so far. -/
  | inside (file : BlockFile) (body : Text)

/-- The section that ends here, if the position is inside one. -/
def Position.close : Position → List Section
  | .inside file body => [(file, Text.trim body)]
  | _ => []

/-- The position after the name of a section. -/
def Position.opened (name : Text) : Position :=
  match BlockFile.ofMarker? name with
  | some file => .inside file []
  | none => .outside

/-- The sections that a pass from the given position over the lines still closes. -/
def collect (position : Position) : List Text → List Section
  | [] => position.close
  | line :: rest =>
    match Line.ofText line with
    | .bare => position.close ++ collect .expectingName rest
    | .named name => position.close ++ collect (.opened name) rest
    | .plain =>
      match position with
      | .outside => collect .outside rest
      | .expectingName =>
        if isBlankLine line then collect .expectingName rest else collect (.opened line) rest
      | .inside file body => collect (.inside file (body ++ line ++ ['\n'])) rest

/-- Every section of a known file, repeated ones included, in the order of the response. -/
def splitAll (response : Text) : List Section := collect .outside (Text.lines response)

/-- The members of a list that occur in it a second time, in the order of their second place. -/
def repeatsFrom (seen found : List BlockFile) : List BlockFile → List BlockFile
  | [] => found
  | file :: rest =>
    if seen.contains file then
      if found.contains file then repeatsFrom seen found rest
      else repeatsFrom seen (found ++ [file]) rest
    else repeatsFrom (seen ++ [file]) found rest

/-- The files with more than one section, in the order in which their second section stands. -/
def repeated (response : Text) : List BlockFile :=
  repeatsFrom [] [] ((splitAll response).map Prod.fst)

end Section

end BlockAudit
