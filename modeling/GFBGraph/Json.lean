import GFBGraph.Glib

/-!
# GFBGraph.Json

The part of json-glib that the library calls: JSON trees, the accessors with
their answers on a `NULL` or ill-typed argument, the reader cursor, and the
state a parser is left in by `json_parser_load_from_data`.

The text-to-tree step itself is not modelled; a parser is whatever root and
error loading a text leaves behind.
-/

namespace GFBGraph

/-- A JSON tree.  The members of an object come in textual order. -/
inductive JsonNode where
  | null
  | boolean (b : Bool)
  | int (i : Int64)
  /-- A double, by its bit pattern. -/
  | double (bits : UInt64)
  | string (s : String)
  | array (elements : List JsonNode)
  | object (members : List (String × JsonNode))

/-- A `JsonArray`. -/
abbrev JsonArray := List JsonNode

/-- A `JsonObject`. -/
abbrev JsonObject := List (String × JsonNode)

namespace JsonNode

/-- Some value of the tree is the string `s`. -/
inductive HasString (s : String) : JsonNode → Prop
  | here : HasString s (.string s)
  | element {es e} : e ∈ es → HasString s e → HasString s (.array es)
  | member {ms m} : m ∈ ms → HasString s m.2 → HasString s (.object ms)

end JsonNode

/-! ## accessors

A pointer argument is an `Option`; applied to `NULL` or to a value of another
kind an accessor logs a critical and answers `NULL` or 0. -/

/-- `json_node_get_object`. -/
def jsonNodeGetObject : Option JsonNode → Option JsonObject
  | some (.object members) => some members
  | _ => none

/-- `json_object_get_array_member`; a JSON `null` member answers `NULL` too. -/
def jsonObjectGetArrayMember (object : Option JsonObject) (name : String) : Option JsonArray :=
  match object.bind (List.lookup name) with
  | some (.array elements) => some elements
  | _ => none

/-- The elements a loop from 0 to `json_array_get_length` visits with
`json_array_get_element`; the length of `NULL` is 0. -/
def jsonArrayElements (array : Option JsonArray) : List JsonNode := array.getD []

/-- `json_object_get_int_member`: doubles and booleans are converted. -/
def jsonObjectGetIntMember (object : Option JsonObject) (name : String) : Int64 :=
  match object.bind (List.lookup name) with
  | some (.int i) => i
  | some (.double bits) => (Float.ofBits bits).toInt64
  | some (.boolean b) => if b then 1 else 0
  | _ => 0

/-- `json_object_get_string_member`. -/
def jsonObjectGetStringMember (object : Option JsonObject) (name : String) : Option String :=
  match object.bind (List.lookup name) with
  | some (.string s) => some s
  | _ => none

/-! ## the reader -/

/-- A `JsonReader`: its cursor, and whether an earlier read left an error set,
after which every read fails. -/
structure JsonReader where
  current : Option JsonNode
  failed : Bool

/-- `json_reader_new`. -/
def jsonReaderNew (root : Option JsonNode) : JsonReader := ⟨root, false⟩

/-- Move the cursor to a child, or fail where there is none. -/
def JsonReader.moveTo (reader : JsonReader) : Option JsonNode → JsonReader
  | some child => { reader with current := some child }
  | none => { reader with failed := true }

/-- `json_reader_read_element`: the `index`-th element of an array, or the
`index`-th member of an object in textual order. -/
def jsonReaderReadElement (reader : JsonReader) (index : Nat) : JsonReader :=
  if reader.failed then reader
  else match reader.current with
    | some (.array elements) => reader.moveTo elements[index]?
    | some (.object members) => reader.moveTo (members[index]?.map Prod.snd)
    | _ => reader.moveTo none

/-- `json_reader_get_string_value`: `NULL` when the cursor is not on a string. -/
def jsonReaderGetStringValue (reader : JsonReader) : Option String :=
  if reader.failed then none
  else match reader.current with
    | some (.string s) => some s
    | _ => none

/-! ## the parser -/

/-- A `JsonParser` after `json_parser_load_from_data`: the root it holds and
the error it reported.  An empty text loads without error and leaves no root;
a text that fails half way may leave the root of what came before. -/
structure JsonParser where
  root : Option JsonNode
  error : Option LibError

/-- What `json_parser_load_from_data` returns. -/
def JsonParser.loaded (parser : JsonParser) : Bool := parser.error.isNone

end GFBGraph
