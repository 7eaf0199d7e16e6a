import NodeFit.Dictionary

/-!
# NodeFit.Json

JSON values.

Numbers are integers or binary floating-point numbers, the latter by their bits.
The fields of an object stand in the order in which they are written; an object
that was read has them in ascending order of their names.

There is one case for each kind of value, and no other well-formedness: an object with two fields
of one name can be written down.  What the constructors for objects leave out (`optional`) is not
the same as null.
-/

namespace NodeFit

/-- A JSON value. -/
inductive Json where
  | null
  | bool (b : Bool)
  | int (n : Int)
  /-- A number with a point or an exponent, or one beyond the integers of 64 bits. -/
  | float (bits : UInt64)
  | text (s : String)
  | list (items : List Json)
  | object (fields : List (String × Json))
deriving Repr, BEq, Inhabited

namespace Json

def field? (json : Json) (name : String) : Option Json :=
  match json with
  | object fields => fields.lookup name
  | _ => none

/-- The object of some fields, brought in ascending order; of two fields with the same
name the later one counts. -/
def ofFields (fields : List (String × Json)) : Json :=
  object (Dictionary.ofList fields).toList

/-- The object of a dictionary of texts. -/
def ofTexts (texts : Dictionary String) : Json :=
  object (texts.toList.map fun entry => (entry.1, text entry.2))

/-- A field that is left out when there is no value for it. -/
def optional {α : Type} (name : String) (encode : α → Json) (value : Option α) :
    List (String × Json) :=
  value.toList.map fun a => (name, encode a)

end Json
end NodeFit
