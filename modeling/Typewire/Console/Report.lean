import Typewire.Console.Table
import Typewire.Rpc.Style
import Typewire.Summary
import Typewire.Text.Literal

/-!
# Reports

Summaries of schema files as a table or as JSON, and the list of styles.
-/
namespace Typewire.Console

/-! ### Colours -/

def white : Text.TextStyle :=
  .colored "white" 7

def green : Text.TextStyle :=
  .colored "green" 2

def yellow : Text.TextStyle :=
  .colored "yellow" 3

def cyan : Text.TextStyle :=
  .colored "cyan" 6

/-! ### Summaries -/

/-- The line above the table of summaries, within a width. -/
def summaryTitle (width : Nat) : List (List Text.Segment) :=
  folded width (cyan.inside .bold) "Files"

def summaryTable (summaries : List Summary) : Table :=
  { columns :=
      [⟨"File", .left, white⟩, ⟨"Output", .left, .dim⟩, ⟨"Package", .left, green⟩] ++
        ["Enums", "Messages", "Fields", "Services", "Methods"].map fun heading =>
          ⟨heading, .right, yellow⟩
    rows := summaries.map fun summary =>
      [summary.name, summary.output, summary.package.getD "", toString summary.enums,
       toString summary.messages, toString summary.fields, toString summary.services,
       toString summary.methods] }

def summaryMembers (summary : Summary) : List (String × String) :=
  [("name", Text.literal summary.name),
   ("output", Text.literal summary.output),
   ("package", (summary.package.map Text.literal).getD "null"),
   ("syntax", Text.literal summary.dialect),
   ("dependencies", toString summary.dependencies),
   ("enums", toString summary.enums),
   ("messages", toString summary.messages),
   ("fields", toString summary.fields),
   ("maps", toString summary.maps),
   ("oneofs", toString summary.oneofs),
   ("services", toString summary.services),
   ("methods", toString summary.methods)]

/-- The JSON object of a summary, one member on each line. -/
def summaryJson (summary : Summary) : List String :=
  let members := (summaryMembers summary).map fun (name, value) =>
    ["    " ++ Text.literal name ++ ": " ++ value]
  ["  \x7b"] ++ Text.punctuate members ++ ["  \x7d"]

def summariesJson (summaries : List Summary) : List String :=
  if summaries.isEmpty then ["[]"]
  else ["["] ++ Text.punctuate (summaries.map summaryJson) ++ ["]"]

/-! ### Styles -/

/-- The table of all styles and what they can do. -/
def styleTable : Table :=
  { columns :=
      [⟨"Style", .left, white.inside .bold⟩, ⟨"Description", .left, white⟩,
       ⟨"RPC package", .left, green⟩] ++
        Capability.all.map fun capability => ⟨capability.label, .centre, {}⟩
    rows := Style.all.map fun style =>
      [style.name, style.description, style.defaultPackage] ++
        Capability.all.map fun capability =>
          if style.capabilities.contains capability then "yes" else "-" }

end Typewire.Console
