import OrderLookup.Page.Section

/-!
# Printing a page

The page as plain text, line by line. Of the mode regions only visible ones are printed, so that a
page on which nothing has happened prints nothing.
-/

namespace OrderLookup.Page

namespace Surface

def fieldLine (s : Surface) (field : RegionId × String) : String :=
  field.2 ++ ": " ++ (s.text? field.1).getD ""

def sectionLines (s : Surface) (part : Section) : List String :=
  "" :: ("== " ++ part.title ++ " ==") :: part.fields.map s.fieldLine

end Surface

def Entry.lines : Entry → List String
  | .placeholder text => [text]
  | .card c =>
    ("-- " ++ c.title ++ " --") :: c.fields.map fun f => "  " ++ f.1 ++ ": " ++ f.2

namespace Surface

def itemLines (s : Surface) : List String :=
  "" :: ("== Items (" ++ (s.text? itemsCount).getD "" ++ ") ==") ::
    (s.list itemsList).flatMap Entry.lines

def resultLines (s : Surface) : List String :=
  (s.text? executionTime).toList ++ sections.flatMap s.sectionLines ++ s.itemLines

def lines (s : Surface) : List String :=
  (if s.isVisible loading then ["Loading..."] else []) ++
    (if s.isVisible error then ["Error: " ++ (s.text? errorMessage).getD ""] else []) ++
    if s.isVisible result then s.resultLines else []

def print (s : Surface) : String :=
  String.join (s.lines.map (· ++ "\n"))

end Surface

end OrderLookup.Page
