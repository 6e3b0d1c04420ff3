/-!
# Listing values in messages

A value that may be absent is listed as `Some(value)` or `None`, and a text between quotation marks.
-/

namespace OrderedEcho

namespace Listing

/-- A value that may be absent. -/
def option {α : Type} (list : α → String) : Option α → String
  | some a => s!"Some({list a})"
  | none => "None"

/-- A text that contains nothing that would have to be escaped. -/
def quoted (text : String) : String := "\"" ++ text ++ "\""

end Listing

end OrderedEcho
