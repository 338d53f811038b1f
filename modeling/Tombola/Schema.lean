import Tombola.Store
import Tombola.Wire.Report
import Tombola.Wire.Request

/-!
# JSON schemas

The schema of a type follows from its shape. Types with a name of their own are referred to and
defined once at the root. The description of the contract holds the schemas of its requests and
answers; each is also a file of its own.
-/

namespace Tombola

open Wire (Shape)

namespace Wire.Shape

/-- The field that names the type of a JSON value. -/
def typeField (t : String) : String × Json := ("type", .text t)

/-- The schema of an object with these properties, of which some are required. -/
def objectFields (properties : List (String × Json)) (required : List String) (closed : Bool) :
    List (String × Json) :=
  [typeField "object"] ++
    (if required.isEmpty then [] else [("required", .list (required.map .text))]) ++
    (if properties.isEmpty then [] else [("properties", .object properties)]) ++
    (if closed then [("additionalProperties", .ofBool false)] else [])

/-- The same schema with null allowed: a simple type becomes two types, a reference a choice. -/
def orNull (fields : List (String × Json)) : List (String × Json) :=
  match fields.lookup "type" with
  | some t => fields.map fun f => if f.1 == "type" then (f.1, .list [t, .text "null"]) else f
  | none => [("anyOf", .list [.object fields, .object [typeField "null"]])]

/-- The names of the fields that may not be left out, in order. -/
def requiredNames (fields : List (String × Shape)) : List String :=
  ((fields.filter fun f => !f.2.isOptional).map (·.1)).mergeSort fun a b => a ≤ b

mutual

/-- The fields of the schema where the shape is used; a named shape is referred to. -/
def schema : Shape → List (String × Json)
  | .text => [typeField "string"]
  | .flag => [typeField "boolean"]
  | .integer format =>
    [typeField "integer", ("format", .text format), ("minimum", .word "0.0")]
  | .list item => [typeField "array", ("items", .object (schema item))]
  | .optional item => orNull (schema item)
  | .named name _ => [("$ref", .text ("#/definitions/" ++ name))]
  | .remarked target => [("allOf", .list [.object (schema target)])]
  | .names values => [typeField "string", ("enum", .list (values.map .text))]
  | .record fields closed => objectFields (schemas fields) (requiredNames fields) closed
  | .variants cases =>
    [("oneOf", .list ((schemas cases).map fun c => .object (objectFields [c] [c.1] true)))]
  termination_by structural s => s

/-- The schema of each field or case, under its name. -/
def schemas : List (String × Shape) → List (String × Json)
  | [] => []
  | f :: rest => oneSchema f :: schemas rest
  termination_by structural fields => fields

/-- The schema of one field or case, under its name. -/
def oneSchema : String × Shape → String × Json
  | (name, s) => (name, .object (schema s))
  termination_by structural field => field

end

mutual

/-- The named shapes that a shape refers to, directly or through others, each with its schema. -/
def definitions : Shape → List (String × Json)
  | .list item => definitions item
  | .optional item => definitions item
  | .named name s => (name, .object (schema s)) :: definitions s
  | .remarked target => definitions target
  | .record fields _ => definitionsOfAll fields
  | .variants cases => definitionsOfAll cases
  | _ => []
  termination_by structural s => s

/-- The named shapes that fields or cases refer to. -/
def definitionsOfAll : List (String × Shape) → List (String × Json)
  | [] => []
  | f :: rest => definitionsOfField f ++ definitionsOfAll rest
  termination_by structural fields => fields

/-- The named shapes that one field or case refers to. -/
def definitionsOfField : String × Shape → List (String × Json)
  | (_, s) => definitions s
  termination_by structural field => field

end

/-- The first of each name. -/
def firsts (defs : List (String × Json)) : List (String × Json) :=
  defs.foldl (fun kept d => if (kept.lookup d.1).isSome then kept else kept ++ [d]) []

/-- The schema of a type on its own, with all definitions it needs. -/
def document (title : String) (s : Shape) : Json :=
  let defs := (firsts (definitions s)).mergeSort fun a b => a.1 ≤ b.1
  .object ([("$schema", .text "http://json-schema.org/draft-07/schema#"), ("title", .text title)] ++
    schema s ++ (if defs.isEmpty then [] else [("definitions", .object defs)]))

/-- The document of a named type has its name for a title. -/
def namedDocument : Shape → Json
  | .named name s => document name s
  | s => document "" s

end Wire.Shape

namespace Schema

/-- The schemas of what the contract takes, by the name of the entry. -/
def requests : List (String × Json) := [
  ("instantiate", Wire.setup.shape.namedDocument),
  ("execute", Wire.request.shape.namedDocument),
  ("query", Wire.question.shape.namedDocument),
  ("migrate", Wire.migration.shape.namedDocument),
  ("sudo", Wire.governanceRequest.shape.namedDocument)]

/-- The schemas of the answers, by the name of the question. -/
def answers : List (String × Json) := [
  ("all_raffles", Wire.raffleReports.shape.namedDocument),
  ("all_tickets", Wire.buyers.shape.document "Array_of_String"),
  ("config", Wire.configReport.shape.namedDocument),
  ("raffle_info", Wire.raffleReport.shape.namedDocument),
  ("ticket_count", Wire.Codec.uint32.shape.document "uint32")]

/-- The description of the contract. -/
def api : Json :=
  .object ([("contract_name", .text Version.current.contract),
    ("contract_version", .text Version.current.version), ("idl_version", .text "1.0.0")] ++
    requests ++ [("responses", .object answers)])

/-- The file of the description of the contract. -/
def apiFile : String := Version.current.contract ++ ".json"

/-- The folder of the files of the single schemas. -/
def rawFolder : String := "raw"

/-- The single schemas by file name. -/
def rawFiles : List (String × Json) :=
  requests.map (fun r => (r.1 ++ ".json", r.2)) ++
    answers.map fun a => ("response_to_" ++ a.1 ++ ".json", a.2)

/-- The contents of the schema folder, by path. -/
def files : List (String × Json) :=
  (apiFile, api) :: rawFiles.map fun f => (rawFolder ++ "/" ++ f.1, f.2)

/-- Names in the order of a folder. -/
def sortedNames (names : List String) : List String := names.mergeSort fun a b => a ≤ b

/-- The names in the schema folder. -/
def topNames : List String := sortedNames [apiFile, rawFolder]

/-- The names in the folder of the single schemas. -/
def rawNames : List String := sortedNames (rawFiles.map (·.1))

end Schema

end Tombola
