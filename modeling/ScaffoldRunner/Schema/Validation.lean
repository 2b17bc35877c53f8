import ScaffoldRunner.Json.Parser
import ScaffoldRunner.Json.Printer
import ScaffoldRunner.Schema.Number
import ScaffoldRunner.Pattern.Matching
import ScaffoldRunner.Pattern.WideSyntax

/-!
# Validation by a schema

A schema is itself a JSON value: `true`, `false` or an object of keywords. The keywords are checked
in the order of their names, every fault is listed, and each has a pointer to the part of the value
that is at fault. Schemas are checked by a schema of their own before they are used.
-/

namespace ScaffoldRunner

/-- Something in a value that a schema does not allow. -/
structure SchemaFault where
  pointer : String
  text : String
  deriving DecidableEq

namespace Schema

def pointerName (name : String) : String :=
  String.ofList (name.toList.flatMap fun c =>
    if c = '~' then ['~', '0'] else if c = '/' then ['~', '1'] else [c])

/-- The pointer to a member or item. -/
def pointTo (pointer name : String) : String := pointer ++ "/" ++ pointerName name

/-- The names of the types, in the order in which they are listed. -/
def typeNames : List String :=
  ["array", "boolean", "integer", "null", "number", "object", "string"]

def hasType (name : String) : Json → Bool
  | .null => name == "null"
  | .bool _ => name == "boolean"
  | .str _ => name == "string"
  | .arr _ => name == "array"
  | .obj _ => name == "object"
  | j => name == "number" || (name == "integer" && isWhole j)

/-- A text between quotation marks. -/
def quoted (text : String) : String := "\"" ++ text ++ "\""

/-- A number of things, in words. -/
def counted (n : Nat) (one many : String) : String :=
  toString n ++ " " ++ (if n = 1 then one else many)

/-- The fault of a value that lacks the types of a schema. -/
def typeFault? (types value : Json) : Option String :=
  let names := match types with
    | .str name => [name]
    | .arr items => items.filterMap Json.string?
    | _ => []
  if names.any fun name => hasType name value then none
  else
    match names with
    | [name] => some (value.compact ++ " is not of type " ++ quoted name)
    | names =>
        let listed := typeNames.filter fun name => names.contains name
        some (value.compact ++ " is not of types " ++ ", ".intercalate (listed.map quoted))

/-- The faults of a value by a keyword that looks at this value only. -/
def plainFaults (keyword : String) (arg value : Json) : List String :=
  let fault (ok : Bool) (text : String) : List String := if ok then [] else [text]
  let shown := value.compact
  let sized (n : Option Nat) (test : Nat → Nat → Bool) (text one many : String) : List String :=
    match n, size? arg with
    | some n, some limit =>
        fault (test n limit) (shown ++ text ++ counted limit one many)
    | _, _ => []
  let atLeast (n limit : Nat) : Bool := limit ≤ n
  let atMost (n limit : Nat) : Bool := n ≤ limit
  let characters := value.string?.map String.length
  let itemCount := value.items?.map List.length
  let memberCount := value.members?.map List.length
  let limited (ok : Bool) (text : String) : List String :=
    fault (!isNumber value || ok) (shown ++ text ++ arg.compact)
  match keyword with
  | "type" => (typeFault? arg value).toList
  | "const" => fault (meetsConstant arg value) (arg.compact ++ " was expected")
  | "enum" =>
      fault ((arg.items?.getD []).any (equal value)) (shown ++ " is not one of " ++ arg.compact)
  | "minimum" => limited (!lessThan value arg) " is less than the minimum of "
  | "maximum" => limited (!lessThan arg value) " is greater than the maximum of "
  | "exclusiveMinimum" =>
      limited (lessThan arg value) " is less than or equal to the minimum of "
  | "exclusiveMaximum" =>
      limited (lessThan value arg) " is greater than or equal to the maximum of "
  | "multipleOf" =>
      fault (isMultipleOf arg value) (shown ++ " is not a multiple of " ++ plainText (toFloat arg))
  | "minLength" => sized characters atLeast " is shorter than " "character" "characters"
  | "maxLength" => sized characters atMost " is longer than " "character" "characters"
  | "pattern" =>
      match value.string?, arg.string? with
      | some text, some source =>
          match Pattern.parse? source with
          | some p => fault (p.matchesIn text) (shown ++ " does not match " ++ quoted source)
          | none => []
      | _, _ => []
  | "minItems" => sized itemCount atLeast " has less than " "item" "items"
  | "maxItems" => sized itemCount atMost " has more than " "item" "items"
  | "uniqueItems" =>
      fault (arg != .bool true || allDistinct (value.items?.getD []))
        (shown ++ " has non-unique elements")
  | "minProperties" => sized memberCount atLeast " has less than " "property" "properties"
  | "maxProperties" => sized memberCount atMost " has more than " "property" "properties"
  | "required" =>
      match value.members? with
      | some members =>
          (arg.items?.getD []).flatMap fun name =>
            fault ((name.string?).all fun name => Dict.has members name)
              (name.compact ++ " is a required property")
      | none => []
  | _ => []

/-- The fault of a value that a schema does not allow at all. -/
def falseFault (pointer : String) (value : Json) : SchemaFault :=
  ⟨pointer, "False schema does not allow " ++ value.compact⟩

/-- The fault of members that a schema does not name. -/
def unexpected (pointer : String) (names : List String) : SchemaFault :=
  let verb := if names.length = 1 then "was" else "were"
  ⟨pointer, "Additional properties are not allowed (" ++
    ", ".intercalate (names.map fun name => "'" ++ name ++ "'") ++ " " ++ verb ++ " unexpected)"⟩

/-- The faults of a value by a keyword that applies schemas to it or to its parts. -/
def appliedFaults (check : Json → Json → String → List SchemaFault) (schema : Members)
    (keyword : String) (arg value : Json) (pointer : String) : List SchemaFault :=
  let valid (s : Json) : Bool := (check s value pointer).isEmpty
  let schemas := arg.items?.getD []
  match keyword with
  | "properties" =>
      match schema.get? "additionalProperties", value.members? with
      | some (.bool false), _ | some (.obj _), _ => []
      | _, some members =>
          (arg.members?.getD []).flatMap fun (name, s) =>
            match members.get? name with
            | some j => check s j (pointTo pointer name)
            | none => []
      | _, none => []
  | "additionalProperties" =>
      match value.members? with
      | none => []
      | some members =>
          match arg, schema.get? "properties" with
          | .bool true, _ => []
          | .bool false, none => (members.take 1).map fun (_, j) => falseFault pointer j
          | .bool false, some named =>
              let known := named.members?.getD []
              let faults := members.flatMap fun (name, j) =>
                match known.get? name with
                | some s => check s j (pointTo pointer name)
                | none => []
              let extra := (members.filter fun e => !known.has e.1).map (·.1)
              faults ++ (if extra.isEmpty then [] else [unexpected pointer extra])
          | _, named =>
              let known := (named.bind Json.members?).getD []
              members.flatMap fun (name, j) =>
                check ((known.get? name).getD arg) j (pointTo pointer name)
  | "items" =>
      match value.items? with
      | none => []
      | some items =>
          ((List.range items.length).zip items).flatMap fun (i, j) =>
            check arg j (pointTo pointer (toString i))
  | "allOf" => schemas.flatMap fun s => check s value pointer
  | "anyOf" =>
      if schemas.any valid then []
      else [⟨pointer, value.compact ++
        " is not valid under any of the schemas listed in the 'anyOf' keyword"⟩]
  | "oneOf" =>
      match (schemas.filter valid).length with
      | 0 => [⟨pointer, value.compact ++
          " is not valid under any of the schemas listed in the 'oneOf' keyword"⟩]
      | 1 => []
      | _ => [⟨pointer, value.compact ++
          " is valid under more than one of the schemas listed in the 'oneOf' keyword"⟩]
  | "not" =>
      if valid arg then [⟨pointer, arg.compact ++ " is not allowed for " ++ value.compact⟩] else []
  | _ => []

/-- The faults of a value by a schema. A reference to `#` stands for the whole schema. -/
def faultsIn (root : Json) : Nat → Json → Json → String → List SchemaFault
  | 0, _, _, _ => []
  | fuel + 1, schema, value, pointer =>
      match schema with
      | .bool false => [falseFault pointer value]
      | .obj keywords =>
          keywords.flatMap fun (keyword, arg) =>
            if keyword = "$ref" ∧ arg = .str "#" then faultsIn root fuel root value pointer
            else
              (plainFaults keyword arg value).map (SchemaFault.mk pointer) ++
                appliedFaults (faultsIn root fuel) keywords keyword arg value pointer
      | _ => []

def faults (schema value : Json) : List SchemaFault :=
  faultsIn schema ((schema.depth + 2) * (value.depth + 2)) schema value ""

def schemaList : Json :=
  .record [("items", .record [("$ref", .str "#")]), ("minItems", .nat 1), ("type", .str "array")]

/-- The schema of objects whose members are schemas. -/
def schemaMembers : Json :=
  .record [("additionalProperties", .record [("$ref", .str "#")]), ("type", .str "object")]

def sizeLimit : Json := .record [("minimum", .nat 0), ("type", .str "integer")]

def only (keyword : String) (arg : Json) : Json := .record [(keyword, arg)]

/-- The part of the schema of schemas about keywords that apply schemas. -/
def applicators : Json :=
  let subschema := only "$ref" (.str "#")
  .record [
    ("properties", .record [("additionalProperties", subschema), ("allOf", schemaList),
      ("anyOf", schemaList), ("items", subschema), ("not", subschema), ("oneOf", schemaList),
      ("properties", schemaMembers)]),
    ("type", .strings ["object", "boolean"])]

/-- The part of the schema of schemas about keywords that look at one value. -/
def assertions : Json :=
  let number := only "type" (.str "number")
  .record [
    ("properties", .record [
      ("enum", only "type" (.str "array")),
      ("exclusiveMaximum", number), ("exclusiveMinimum", number),
      ("maxItems", sizeLimit), ("maxLength", sizeLimit), ("maxProperties", sizeLimit),
      ("maximum", number),
      ("minItems", sizeLimit), ("minLength", sizeLimit), ("minProperties", sizeLimit),
      ("minimum", number),
      ("multipleOf", .record [("exclusiveMinimum", .nat 0), ("type", .str "number")]),
      ("pattern", only "type" (.str "string")),
      ("required", .record [("items", only "type" (.str "string")), ("type", .str "array"),
        ("uniqueItems", .bool true)]),
      ("type", only "anyOf" (.arr [
        only "enum" (.strings typeNames),
        .record [("items", only "enum" (.strings typeNames)), ("minItems", .nat 1),
          ("type", .str "array"), ("uniqueItems", .bool true)]])),
      ("uniqueItems", only "type" (.str "boolean"))]),
    ("type", .strings ["object", "boolean"])]

def schemaOfSchemas : Json :=
  .record [("allOf", .arr [only "type" (.strings ["object", "boolean"]), applicators, assertions]),
    ("type", .strings ["object", "boolean"])]

/-- The first pattern in a schema that is no regular expression. The keywords are gone through by
name; a limit on further members takes the named members first, and in their stead. -/
def badPattern? : Nat → Json → Option String
  | 0, _ => none
  | fuel + 1, schema =>
      match schema with
      | .obj keywords =>
          let inMembers (arg : Json) : Option String :=
            (arg.members?.getD []).findSome? fun (_, s) => badPattern? fuel s
          let limited := match (Json.obj keywords).get? "additionalProperties" with
            | some (.bool false) | some (.obj _) => true
            | _ => false
          keywords.findSome? fun (keyword, arg) =>
            match keyword with
            | "pattern" =>
                arg.string?.bind fun text =>
                  if (Pattern.parse? text).isSome then none else some text
            | "properties" => if limited then none else inMembers arg
            | "additionalProperties" =>
                if limited then
                  ((((Json.obj keywords).get? "properties").bind inMembers).orElse fun _ =>
                    badPattern? fuel arg)
                else none
            | "items" | "not" => badPattern? fuel arg
            | "allOf" | "anyOf" | "oneOf" => (arg.items?.getD []).findSome? (badPattern? fuel)
            | _ => none
      | _ => none

/-- Why a schema cannot be used. -/
def defect? (schema : Json) : Option String :=
  match faults schemaOfSchemas schema with
  | fault :: _ => some fault.text
  | [] =>
      (badPattern? (schema.depth + 1) schema).map fun text =>
        (Json.str text).compact ++ " is not a \"regex\""

/-- Why a value is refused by a schema, in one text. -/
def refusal? (schema value : Json) : Option String :=
  match defect? schema with
  | some text => some ("Schema compilation error: " ++ text)
  | none =>
      match faults schema value with
      | [] => none
      | found =>
          some ("; ".intercalate (found.map fun f => "At '" ++ f.pointer ++ "': " ++ f.text))

end Schema

end ScaffoldRunner
