/-!
# Shapes of values on the wire

A shape says what the JSON form of a type looks like. A type with a name of its own is referred to
by that name, and its shape is given once as a definition.
-/

namespace Tombola.Wire

/-- What the JSON form of a type looks like. -/
inductive Shape where
  | text
  | flag
  /-- An unsigned integer, named by its format. -/
  | integer (format : String)
  | list (item : Shape)
  /-- A value that may be null, or a field that may be left out. -/
  | optional (item : Shape)
  | named (name : String) (definition : Shape)
  /-- A reference to a named type with remarks of its own. -/
  | remarked (target : Shape)
  /-- One of a few texts. -/
  | names (values : List String)
  /-- An object with these fields; a closed one has no other. -/
  | record (fields : List (String × Shape)) (closed : Bool)
  /-- An object whose only field is one of these. -/
  | variants (cases : List (String × Shape))

namespace Shape

/-- A field of this shape may be left out. -/
def isOptional : Shape → Bool
  | .optional _ => true
  | _ => false

end Shape

end Tombola.Wire
