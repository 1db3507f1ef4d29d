/-!
# Outlines of values

A value is outlined by the name of its kind and its named parts in braces; parts that are not shown
are stood for by two points.
-/

namespace Safeguard.Text

/-- The outline of a value: `whole` says that every part is listed. -/
def outline (kind : String) (parts : List (String × String)) (whole : Bool) : String :=
  let shown := parts.map fun (name, text) => name ++ ": " ++ text
  let all := if whole then shown else shown ++ [".."]
  kind ++ " \x7b " ++ String.intercalate ", " all ++ " \x7d"

/-- The outline of a part that may be missing. -/
def outlineOption (text : Option String) : String :=
  match text with
  | none => "None"
  | some t => "Some(" ++ t ++ ")"

end Safeguard.Text
