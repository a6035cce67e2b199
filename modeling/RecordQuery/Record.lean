import RecordQuery.Json.Printer
import Std.Data.HashMap
import Std.Data.TreeMap

/-!
# Records

A query sees a record only through the texts of its named fields
(`RecordQuery.Record.fieldText`); a field without a text is absent. The entries of
a JSON object are a record, and so are maps from names to texts; any other JSON
value is a record without fields.
-/

namespace RecordQuery

/-- A type of records with named fields. -/
class Record (ρ : Type) where
  /-- The text of a named field, if it is there. -/
  fieldText : ρ → String → Option String

namespace Record

/-- Entries of an object: a null field is absent. -/
instance : Record Json.Entries where
  fieldText entries name := (Json.field? entries name).bind Json.Value.text?

/-- Any JSON value: only an object has fields. -/
instance : Record Json.Value where
  fieldText
    | .object entries, name => fieldText entries name
    | _, _ => none

instance : Record (Std.HashMap String String) where
  fieldText texts name := texts[name]?

instance : Record (Std.TreeMap String String) where
  fieldText texts name := texts[name]?

@[simp] theorem fieldText_entries (entries : Json.Entries) (name : String) :
    fieldText entries name = (Json.field? entries name).bind Json.Value.text? := rfl

end Record

end RecordQuery
