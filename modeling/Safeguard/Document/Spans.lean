import Safeguard.Document.Codec

/-!
# Spans of time in documents

The two ways in which a document keeps a span of time: one that has to be there, and one that may be
`null`. Both are whole milliseconds.
-/

namespace Safeguard

/-- A span of time that is always given, and one that may be missing. -/
structure Spans where
  required : Duration
  optional : Option Duration
deriving DecidableEq

namespace Spans

/-- The fields of the two spans. -/
def fields : List (Field Spans) :=
  [.ofValue "required" (·.toMillis?) .ofMillis (·.required)
      fun required s => { s with required },
    .ofValue "optional" (·.toOptional? (·.toMillis?)) (fun o => (o.map .ofMillis).getD .null)
      (·.optional) fun optional s => { s with optional }]

/-- The spans that a document describes; both fields have to be there. -/
def ofDocument? (d : Dialect) (v : Document) : Option Spans :=
  Field.readWhole fields d v ⟨.zero, none⟩

/-- The document of two spans. -/
def toDocument (s : Spans) : Document := Field.writeAll fields s

end Spans

end Safeguard
