import Safeguard.Document.Codec

/-!
# Complaints

A complaint says that the setup is wrong: the part of the program that is to blame and a message. It
can be kept in a document, as a table of both.
-/

namespace Safeguard

/-- The two kinds of complaint about the setup. -/
inductive ComplaintKind
  | configuration
  | internal
deriving DecidableEq

namespace ComplaintKind

/-- The name of a kind. -/
def name : ComplaintKind → String
  | configuration => "Config"
  | internal => "Internal"

/-- The kind with a given name. -/
def ofName? (s : String) : Option ComplaintKind := [configuration, internal].find? (·.name == s)

end ComplaintKind

/-- A complaint about the setup: its kind and a message. -/
structure Complaint where
  kind : ComplaintKind
  message : String
deriving DecidableEq

/-- The text of a complaint. -/
def Complaint.text (c : Complaint) : String :=
  match c.kind with
  | .configuration => "Configuration error: " ++ c.message
  | .internal => "Internal error: " ++ c.message

namespace Complaint

/-- The fields of a complaint. -/
def fields : List (Field Complaint) :=
  [{ name := "type"
     read := fun d v c => (v.toKeyword? d ComplaintKind.ofName?).map fun kind => { c with kind }
     write := fun c => some (.text c.kind.name) },
    .ofValue "message" (·.toText?) .text (·.message) fun message c => { c with message }]

/-- Whether a document can describe a complaint at all: a table, or a list whose first item names
the kind by a plain text. In a table a kind may be written in any way. -/
def isDescription : Document → Bool
  | .table _ | .list (.text _ :: _) => true
  | _ => false

/-- The complaint that a document describes; both fields have to be there. -/
def ofDocument? (d : Dialect) (v : Document) : Option Complaint :=
  if isDescription v then Field.readWhole fields d v ⟨.configuration, ""⟩ else none

/-- The document of a complaint. -/
def toDocument (c : Complaint) : Document := Field.writeAll fields c

end Complaint

end Safeguard
