import BlockAudit.Section.Line

/-!
# Extraction of one section

The body of a section begins after the first line that introduces it and ends before the next
delimiter. A marker introduces its section when it stands on a sentinel line, or alone on the first
line that is not blank after a bare sentinel.
-/

namespace BlockAudit

namespace Section

/-- The lines after the first line that introduces `marker`. -/
def linesAfter? (marker : Text) : List Text → Option (List Text)
  | [] => none
  | line :: rest =>
    match Line.ofText line with
    | .named name => if name = marker then some rest else linesAfter? marker rest
    | .bare =>
      match rest.dropWhile isBlankLine with
      | [] => none
      | candidate :: body =>
        if Text.trim candidate = marker then some body else linesAfter? marker rest
    | .plain => linesAfter? marker rest

/-- The lines up to the next delimiter, as one text. -/
def bodyOf (lines : List Text) : Text :=
  Text.trim (lines.takeWhile (fun line => !isDelimiter line)).flatten

/-- The trimmed body of the first section of a file; `none` when the response has none. -/
def extract? (response : Text) (file : BlockFile) : Option Text :=
  (linesAfter? file.marker (Text.fullLines response)).map bodyOf

end Section

end BlockAudit
