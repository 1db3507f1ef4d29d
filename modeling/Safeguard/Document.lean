import Safeguard.Number.Binary64

/-!
# Documents

A `Document` is what a configuration file says, whatever notation it is written in: a tree of tables
and lists with scalar leaves. It keeps more than a reader of settings wants, so that the reader can
refuse it: keys that occur twice, and what a notation lets pass although it has no value.
-/

namespace Safeguard

/-- The content of a configuration file. -/
inductive Document where
  | null
  | bool (b : Bool)
  | integer (n : Int)
  | double (x : Binary64)
  /-- A number out of range, or a text with an escape that denotes no character. -/
  | unreadable
  | text (s : String)
  /-- A date, a time, or both. -/
  | moment
  | list (items : List Document)
  /-- Entries in the order in which they are written. A key may have no text. -/
  | table (entries : List (Option String × Document))

end Safeguard
