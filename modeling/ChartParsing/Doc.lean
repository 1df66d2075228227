/-!
# Laying out text within a width

A `Doc` is a text with places where a line may end. A group is laid out flat, with a space
for each of its optional line ends, when its text up to the next line end behind the group
fits the width; otherwise its own line ends are taken, and the groups inside decide for
themselves. Widths and columns count bytes of UTF-8, and a newline that is part of a text
counts as a byte.

`Doc.render` is one pass over the document. What follows the part at hand is passed along
as a `Rest`: whether it fits from a column on, and how it is written from there.
-/

set_option autoImplicit false

namespace ChartParsing

/-! ## Documents -/

/-- **A text with optional line ends.** -/
inductive Doc where
  | empty
  /-- A text that is never split. -/
  | text (s : String)
  /-- A space, or the end of a line if the group around it is not flat. -/
  | line
  /-- The end of a line in any case. -/
  | hardline
  | append (first second : Doc)
  /-- A document whose new lines are indented by `indent` more. -/
  | nest (indent : Nat) (d : Doc)
  /-- A document that is laid out flat if it fits. -/
  | group (d : Doc)

namespace Doc

instance : Append Doc := ⟨append⟩

/-- A space if what follows fits, up to the next line end, and a line end otherwise. -/
def softline : Doc := group line

/-- The documents with a separator between any two neighbours. -/
def join (separator : Doc) : List Doc → Doc
  | [] => empty
  | [d] => d
  | d :: rest => d ++ separator ++ join separator rest

/-- How the line ends of a part are written. -/
inductive Mode where
  | flat
  | broken

/-- The part, and `rest` behind it, stay within `width` from the given column up to the next
line end. -/
def fits (width : Nat) : Doc → Mode → (rest : Nat → Bool) → (column : Nat) → Bool
  | empty, _, rest, column => rest column
  | text s, _, rest, column =>
    column + s.utf8ByteSize ≤ width && rest (column + s.utf8ByteSize)
  | line, .flat, rest, column => column + 1 ≤ width && rest (column + 1)
  | line, .broken, _, _ => true
  | hardline, _, _, _ => true
  | append first second, mode, rest, column =>
    fits width first mode (fits width second mode rest) column
  | nest _ d, mode, rest, column => fits width d mode rest column
  | group d, mode, rest, column => fits width d mode rest column

/-- **What follows a part of a document**, as a function of the column where it starts. -/
structure Rest where
  /-- It fits up to its first possible line end. -/
  fits : Nat → Bool
  text : Nat → String

/-- A line end, the indentation of the new line, and what follows. -/
def newline (indent : Nat) (rest : Rest) : String :=
  "\n" ++ String.ofList (List.replicate indent ' ') ++ rest.text indent

/-- The text of a part and of what follows it. Whether a group is flat is decided where it
starts; line ends behind it count as possible ones. -/
def layout (width : Nat) : Doc → Mode → (indent : Nat) → Rest → (column : Nat) → String
  | empty, _, _, rest, column => rest.text column
  | text s, _, _, rest, column => s ++ rest.text (column + s.utf8ByteSize)
  | line, .flat, _, rest, column => " " ++ rest.text (column + 1)
  | line, .broken, indent, rest, _ => newline indent rest
  | hardline, _, indent, rest, _ => newline indent rest
  | append first second, mode, indent, rest, column =>
    layout width first mode indent
      ⟨fits width second .broken rest.fits, layout width second mode indent rest⟩ column
  | nest n d, mode, indent, rest, column => layout width d mode (indent + n) rest column
  | group d, .flat, indent, rest, column => layout width d .flat indent rest column
  | group d, .broken, indent, rest, column =>
    layout width d (if fits width d .flat rest.fits column then .flat else .broken) indent rest column

/-- **The document written within a width**, as far as its texts allow. -/
def render (width : Nat) (d : Doc) : String :=
  layout width d .broken 0 ⟨fun _ => true, fun _ => ""⟩ 0

end Doc

/-- The width for which texts are laid out when none is given. -/
def standardWidth : Nat := 80

end ChartParsing
