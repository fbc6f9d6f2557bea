import SyntaxExport.Text.Blank

/-!
# One-line summaries

A text of several lines is shown by its first line, three dots and the last character of its last
line, which usually closes what the first line opens.
-/

namespace SyntaxExport.Text

/-- The lines of a text whose current line, read so far, is `current` backwards. A line feed, a
carriage return and the two together each end a line; nothing after the last of them is no line. -/
def linesFrom (current : List Char) : List Char → List (List Char)
  | [] => if current.isEmpty then [] else [current.reverse]
  | '\n' :: rest => current.reverse :: linesFrom [] rest
  | '\r' :: '\n' :: rest => current.reverse :: linesFrom [] rest
  | '\r' :: rest => current.reverse :: linesFrom [] rest
  | c :: rest => linesFrom (c :: current) rest

/-- The lines of a text, without their line breaks. -/
def readerLines (cs : List Char) : List (List Char) :=
  linesFrom [] cs

/-- The lines without the last one, if nothing stands on it. -/
def dropEmptyLast (lines : List (List Char)) : List (List Char) :=
  if lines.getLast?.any List.isEmpty then lines.dropLast else lines

/-- A single line as it is; of several lines the first, three dots and the last character. -/
def summaryOfLines : List (List Char) → List Char
  | [] => []
  | [only] => only
  | first :: second :: rest =>
      first ++ ['.', '.', '.'] ++ (((second :: rest).getLast?).bind List.getLast?).toList

/-- A text in one line. -/
def summarize (s : String) : String :=
  String.ofList (summaryOfLines (dropEmptyLast (readerLines (trimChars s.toList))))

end SyntaxExport.Text
