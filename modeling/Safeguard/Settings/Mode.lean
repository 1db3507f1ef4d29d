import Safeguard.Policy
import Safeguard.Text.Blank

/-!
# Timeout modes written by hand

A mode that someone types may have blanks around it and letters of either case.
-/

namespace Safeguard.TimeoutMode

/-- A text that is no mode. -/
structure ReadError where
  text : String
deriving DecidableEq

/-- The wording of the refusal of a text. -/
def ReadError.message (e : ReadError) : String := "Invalid TimeoutModeSetting: " ++ e.text

/-- Reads a mode. -/
def read (cs : List Char) : Except ReadError TimeoutMode :=
  match ofKeyword? (String.ofList ((Text.trim cs).map Char.toLower)) with
  | some mode => .ok mode
  | none => .error ⟨String.ofList cs⟩

end Safeguard.TimeoutMode
