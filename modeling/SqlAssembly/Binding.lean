import SqlAssembly.Scalar

/-!
# Binding

An argument is sent to PostgreSQL in binary form, and the parameter's type decides the form. A
scalar binds only to types of its own kind, and a number only if the type can hold it.
-/

namespace SqlAssembly

open Numeric

/-! ## Types -/

inductive BuiltinType where
  | bool
  | bytea
  | char
  | name
  | int2
  | int4
  | int8
  | text
  | oid
  | json
  | jsonb
  | float4
  | float8
  | numeric
  | varchar
  | bpchar
  | unknown
  | uuid
  | date
  | timestamptz
  | int4Array
  | textArray
deriving DecidableEq

namespace BuiltinType

/-- The name in the catalog; an array type has that of its items after an underscore. -/
def catalogName : BuiltinType → String
  | .bool => "bool"
  | .bytea => "bytea"
  | .char => "char"
  | .name => "name"
  | .int2 => "int2"
  | .int4 => "int4"
  | .int8 => "int8"
  | .text => "text"
  | .oid => "oid"
  | .json => "json"
  | .jsonb => "jsonb"
  | .float4 => "float4"
  | .float8 => "float8"
  | .numeric => "numeric"
  | .varchar => "varchar"
  | .bpchar => "bpchar"
  | .unknown => "unknown"
  | .uuid => "uuid"
  | .date => "date"
  | .timestamptz => "timestamptz"
  | .int4Array => "_int4"
  | .textArray => "_text"

def all : List BuiltinType :=
  [.bool, .bytea, .char, .name, .int2, .int4, .int8, .text, .oid, .json, .jsonb, .float4,
    .float8, .numeric, .varchar, .bpchar, .unknown, .uuid, .date, .timestamptz, .int4Array,
    .textArray]

def ofName? (name : String) : Option BuiltinType := all.find? (·.catalogName = name)

end BuiltinType

/-- A type of a parameter. A user's type is never a built-in one, whatever it is called. -/
inductive PgType where
  | builtin (t : BuiltinType)
  /-- Any other built-in type, by its name in the catalog. -/
  | catalog (name : String) (unlisted : BuiltinType.ofName? name = none)
  | user (name schema : String)
deriving DecidableEq

namespace PgType

def typeName : PgType → String
  | .builtin t => t.catalogName
  | .catalog name _ => name
  | .user name _ => name

/-- The name in messages, with its schema unless that is searched anyway. -/
def display : PgType → String
  | .builtin t => t.catalogName
  | .catalog name _ => name
  | .user name schema =>
      if schema = "pg_catalog" || schema = "public" then name else schema ++ "." ++ name

/-- Types of trees and tree patterns, which expect a version byte before the text. -/
def isVersioned (t : PgType) : Bool :=
  t.typeName = "ltree" || t.typeName = "lquery" || t.typeName = "ltxtquery"

/-- The types that a text binds to: the built-in character types, and a few types of extensions,
which are known by name in any schema. -/
def takesText (t : PgType) : Bool :=
  match t with
  | .builtin .varchar | .builtin .text | .builtin .bpchar | .builtin .name
  | .builtin .unknown => true
  | t => t.typeName = "citext" || t.isVersioned

def accepts (t : PgType) : Bool :=
  t.takesText ||
    match t with
    | .builtin .int2 | .builtin .int4 | .builtin .int8 | .builtin .float4 | .builtin .float8
    | .builtin .bool => true
    | _ => false

end PgType

/-! ## Errors -/

/-- What was to be bound, in the terms of messages. -/
inductive Carrier where
  | text
  | int
  | float
  | bool
  /-- A scalar of any kind, refused by its type alone. -/
  | scalar
deriving DecidableEq

def Carrier.display : Carrier → String
  | .text => "alloc::string::String"
  | .int => "i64"
  | .float => "f64"
  | .bool => "bool"
  | .scalar => "pgqb::value::Scalar"

inductive BindError where
  | wrongType (carrier : Carrier) (type : PgType)
  /-- The integer does not fit into the type's width. -/
  | intRange
  /-- The finite double lies beyond the finite singles. -/
  | floatRange (x : Double)
deriving DecidableEq

def BindError.message : BindError → String
  | .wrongType carrier type =>
      "cannot convert between the Rust type `" ++ carrier.display ++
        "` and the Postgres type `" ++ type.display ++ "`"
  | .intRange => "out of range integral type conversion attempted"
  | .floatRange x => "float " ++ x.display ++ " out of range for FLOAT4"

/-! ## Encoding -/

def bigEndian : (width : Nat) → Nat → List UInt8
  | 0, _ => []
  | width + 1, n => bigEndian width (n / 256) ++ [UInt8.ofNat n]

/-- An integer between the two bounds of a type, in two's complement of the type's width. -/
def encodeInt (width : Nat) (least greatest : Int) (n : Int64) : Except BindError (List UInt8) :=
  if least ≤ n.toInt ∧ n.toInt ≤ greatest then .ok (bigEndian width n.toUInt64.toNat)
  else .error .intRange

def greatestSingle : Nat :=
  BinaryFormat.single.recode .double (BinaryFormat.single.infinity - 1)

/-- A double as a single. What would be rounded beyond the finite singles is refused before it
is rounded; infinities and what is no number pass. -/
def encodeSingle (x : Double) : Except BindError (List UInt8) :=
  if x.IsFinite ∧ greatestSingle < x.code then .error (.floatRange x)
  else .ok (bigEndian 4 (x.convert .single).bits)

def encodeText (type : PgType) (s : String) : List UInt8 :=
  (if type.isVersioned then [1] else []) ++ s.toUTF8.data.toList

/-- The bytes that the scalar is sent as, never the null value. -/
def Scalar.encode (s : Scalar) (type : PgType) : Except BindError (List UInt8) :=
  match s with
  | .text s =>
      if type.takesText then .ok (encodeText type s) else .error (.wrongType .text type)
  | .int n =>
      match type with
      | .builtin .int2 => encodeInt 2 Int16.minValue.toInt Int16.maxValue.toInt n
      | .builtin .int4 => encodeInt 4 Int32.minValue.toInt Int32.maxValue.toInt n
      | .builtin .int8 => .ok (bigEndian 8 n.toUInt64.toNat)
      | _ => .error (.wrongType .int type)
  | .float x =>
      match type with
      | .builtin .float4 => encodeSingle x
      | .builtin .float8 => .ok (bigEndian 8 x.bits)
      | _ => .error (.wrongType .float type)
  | .bool b =>
      match type with
      | .builtin .bool => .ok [if b then 1 else 0]
      | _ => .error (.wrongType .bool type)

def Scalar.encodeChecked (s : Scalar) (type : PgType) : Except BindError (List UInt8) :=
  if type.accepts then s.encode type else .error (.wrongType .scalar type)

end SqlAssembly
