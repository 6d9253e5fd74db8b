/-!
# Ends of lines

* `unifyLineEnds` — a text in which every line ends with a line feed alone.
-/

namespace QueryPlans.Text

/-- Write every end of a line as a line feed: a carriage return, alone or before a line feed. -/
def unifyLineEndsOf : List Char → List Char
  | [] => []
  | '\r' :: '\n' :: rest => '\n' :: unifyLineEndsOf rest
  | '\r' :: rest => '\n' :: unifyLineEndsOf rest
  | c :: rest => c :: unifyLineEndsOf rest

/-- Write every end of a line as a line feed. -/
def unifyLineEnds (s : String) : String := String.ofList (unifyLineEndsOf s.toList)

end QueryPlans.Text
