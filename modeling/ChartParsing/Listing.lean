/-!
# Listings of values for diagnosis

A listing writes a value out with its brackets, either in one line or as a block with one
item on each line. In a block every line of an item is indented, also a line that a symbol
with a newline starts, and every item is followed by a comma.
-/

set_option autoImplicit false

namespace ChartParsing

/-- **The two written forms of a value.** -/
structure Listing where
  /-- All in one line. -/
  inline : String
  /-- One item on each line. -/
  block : String

namespace Listing

/-- The lines of a text, each behind four spaces. Every text has at least one line. -/
def indent (text : String) : String :=
  "    " ++ String.ofList (text.toList.flatMap fun c =>
    if c = '\n' then ['\n', ' ', ' ', ' ', ' '] else [c])

/-- The items on lines of their own, each followed by a comma. -/
def blockLines (items : List String) : String :=
  String.join (items.map fun item => indent (item ++ ",") ++ "\n")

/-- A value that is written as it is. -/
def atom (text : String) : Listing := ⟨text, text⟩

/-- Items between two brackets. -/
def bracketed (opening closing : String) (items : List Listing) : Listing where
  inline := opening ++ ", ".intercalate (items.map inline) ++ closing
  block :=
    if items.isEmpty then opening ++ closing
    else opening ++ "\n" ++ blockLines (items.map block) ++ closing

/-- A sequence: `[x, y]`. -/
def sequence (items : List Listing) : Listing := bracketed "[" "]" items

/-- A set, its members in order. -/
def set (items : List Listing) : Listing := bracketed "\x7b" "\x7d" items

/-- A record with named fields, of which there is at least one. -/
def record (name : String) (fields : List (String × Listing)) : Listing where
  inline :=
    name ++ " \x7b " ++
      ", ".intercalate (fields.map fun (field, value) => field ++ ": " ++ value.inline) ++ " \x7d"
  block :=
    name ++ " \x7b\n" ++
      blockLines (fields.map fun (field, value) => field ++ ": " ++ value.block) ++ "\x7d"

end Listing

end ChartParsing
