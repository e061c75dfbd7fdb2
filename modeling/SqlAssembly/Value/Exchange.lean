import SqlAssembly.BuildError
import SqlAssembly.Json.Reader
import SqlAssembly.Value

/-!
# Scalars and values in JSON

A scalar or a value is written as the document it looks like, with no mark of its kind. There
are two readers. One matches on the document and names what it refuses; the other tries the
kinds in a fixed order and takes the first that fits, text before integer before double before
truth value, and a scalar before a sequence.
-/

namespace SqlAssembly

/-! ## Writing -/

/-- The document of a scalar. JSON has no word for a double that is not finite; it becomes
null. -/
def Scalar.toJson : Scalar → Json
  | .text s => .text s
  | .int n => .number (.ofInt64 n)
  | .float x => if x.IsFinite then .number (.real x) else .null
  | .bool b => .bool b

def Value.toJson : Value → Json
  | .scalar s => s.toJson
  | .sequence items => .array (items.map Scalar.toJson)

/-! ## Reading by the kind of the document -/

def Scalar.ofJson : Json → Except BuildError Scalar
  | .text s => .ok (.text s)
  | .bool b => .ok (.bool b)
  | .number n =>
      match n.toInt64? with
      | some i => .ok (.int i)
      | none =>
          match n.toDouble? with
          | some x => .ok (.float x)
          | none => .error (.invalidArgument (.numberRange n))
  | .null => .error (.invalidArgument .nullScalar)
  | .array _ => .error (.invalidArgument .nestedSequence)
  | .object _ => .error (.invalidArgument .objectScalar)

/-- The value of a document: an array is a sequence, anything else one scalar. -/
def Value.ofJson : Json → Except BuildError Value
  | .array items => (items.mapM Scalar.ofJson).map .sequence
  | document => (Scalar.ofJson document).map .scalar

/-! ## Reading by trial -/

namespace Json

def text? : Json → Option String
  | .text s => some s
  | _ => none

def int64? : Json → Option Int64
  | .number n => n.toInt64?
  | _ => none

def double? : Json → Option Numeric.Double
  | .number n => n.toDouble?
  | _ => none

def bool? : Json → Option Bool
  | .bool b => some b
  | _ => none

def items? : Json → Option (List Json)
  | .array items => some items
  | _ => none

end Json

/-- The first kind of scalar that the document fits. -/
def Scalar.decode? (document : Json) : Option Scalar :=
  document.text?.map .text <|> document.int64?.map .int <|> document.double?.map .float <|>
    document.bool?.map .bool

def Scalar.decodeList? (document : Json) : Option (List Scalar) :=
  document.items?.bind fun items => items.mapM Scalar.decode?

/-- A scalar if the document fits one, otherwise a sequence. -/
def Value.decode? (document : Json) : Option Value :=
  (Scalar.decode? document).map .scalar <|> (Scalar.decodeList? document).map .sequence

end SqlAssembly
