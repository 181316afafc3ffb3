import ContentRouter.Binding.Basic
import ContentRouter.Source.Text

/-!
# Calls of delegates

What a router writes for each argument of a call. A placeholder is read from the request and
converted to the type of its parameter. A framework argument is passed on if the entry point has it,
and is `null` if it has not.

The request's list of path segments leaves out the empty ones, so a placeholder is found in it at
its place in the template less the empty segments before it.
-/

namespace ContentRouter

namespace Source

/-- The name of the entry point of an operation. -/
def entryName : Operation → String
  | .query => "query"
  | .insert => "insert"
  | .update => "update"
  | .delete => "delete"
  | .getType => "getType"

/-- The parameters of the entry point of an operation, each with its type. -/
def entryParameters (types : TypeNames) : Operation → List (String × String)
  | .query =>
      [(types.uri, "uri"), (types.stringArray, "projection"), (types.string, "selection"),
        (types.stringArray, "selectionArgs"), (types.string, "sortOrder")]
  | .insert => [(types.uri, "uri"), (types.contentValues, "values")]
  | .update =>
      [(types.uri, "uri"), (types.contentValues, "values"), (types.string, "selection"),
        (types.stringArray, "selectionArgs")]
  | .delete =>
      [(types.uri, "uri"), (types.string, "selection"), (types.stringArray, "selectionArgs")]
  | .getType => [(types.uri, "uri")]

/-- A name with its arguments or its parameters. -/
def call (name : String) (arguments : List String) : String :=
  name ++ "(" ++ Text.joinWith ", " arguments ++ ")"

/-- The head of the entry point of an operation. -/
def signature (types : TypeNames) (operation : Operation) : String :=
  let parameters := (entryParameters types operation).map fun (typeName, name) =>
    typeName ++ " " ++ name
  types.returnType operation ++ " " ++ call (entryName operation) parameters

/-- Whether the entry point of an operation has a framework argument at hand. -/
def offers (operation : Operation) : FrameworkArgument → Bool
  | .projection | .sortOrder => operation = .query
  | .selection | .selectionArgs =>
      operation = .query || operation = .update || operation = .delete
  | .contentValues => operation = .insert || operation = .update
  | .contentUri | .context => true

/-- The value that a type has where nothing else is known. -/
def defaultValue (typeName : String) : String :=
  if typeName == "boolean" then "false"
  else if typeName == "char" then "'\\0'"
  else if typeName == "byte" || typeName == "short" || typeName == "int" then "0"
  else if typeName == "long" then "0L"
  else if typeName == "float" then "0f"
  else if typeName == "double" then "0d"
  else "null"

/-- The types that a text is converted to by a call, each with the function to call. -/
def conversions : List (String × String) :=
  [("long", "Long.parseLong"), ("int", "Integer.parseInt"), ("short", "Short.parseShort"),
    ("byte", "Byte.parseByte"), ("double", "Double.parseDouble"), ("float", "Float.parseFloat"),
    ("boolean", "Boolean.parseBoolean"), ("java.lang.Long", "Long.valueOf"),
    ("java.lang.Integer", "Integer.valueOf"), ("java.lang.Boolean", "Boolean.valueOf")]

/-- An expression for a text, converted to a type. A type that nothing is known of gets the text
itself. -/
def convert (types : TypeNames) (typeName expression : String) : String :=
  match conversions.lookup typeName with
  | some function => call function [expression]
  | none => if typeName = types.uri then call (types.uri ++ ".parse") [expression] else expression

/-- The place of a segment of a template among those segments of a request that are not empty. -/
def runtimeIndex (segments : List Segment) (position : Nat) : Nat :=
  position - (segments.take position).countP Segment.isEmpty

/-- The expression that reads a placeholder from a request. -/
def placeholderText (segments : List Segment) : Slot → String
  | .segment position => s!"uri.getPathSegments().get({runtimeIndex segments position})"
  | .parameter key => s!"uri.getQueryParameter({literal key})"

/-- The expression for a framework argument that an entry point has at hand. -/
def frameworkText : FrameworkArgument → String
  | .projection => "projection"
  | .selection => "selection"
  | .selectionArgs => "selectionArgs"
  | .sortOrder => "sortOrder"
  | .contentValues => "values"
  | .contentUri => "uri"
  | .context => "delegate.getContext()"

/-- **The expression that a router passes for a parameter.** -/
def argument (types : TypeNames) (operation : Operation) (segments : List Segment)
    (binding : Binding) : String :=
  match binding.supply with
  | .placeholder placeholder =>
      convert types binding.typeName (placeholderText segments placeholder.slot)
  | .framework argument => if offers operation argument then frameworkText argument else "null"
  | .rawString => "uri.toString()"
  | .unannotated => defaultValue binding.typeName

end Source

end ContentRouter
