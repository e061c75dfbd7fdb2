import SqlAssembly.Json.Writer
import SqlAssembly.Text.Quoted
import SqlAssembly.Text.UpperCase

/-!
# Errors of building

Every error belongs to the call that brought in bad input; assembling a statement never fails.
An error is a cause, and the wording of all causes is in one place.
-/

namespace SqlAssembly

open Numeric

inductive ArgumentFault where
  | emptyIdentifier
  | nulInIdentifier
  /-- A table takes its own name and possibly one that it is called by. -/
  | tableNames (count : Nat)
  | emptyColumn
  | nonFinite (x : Double) (column : String)
  | emptyList (column operator : String)
  | page (n : Int64)
  | pageSize (n : Int64)
  | offsetOverflow (page size : Int64)
  | nullScalar
  | nestedSequence
  | objectScalar
  | numberRange (n : Json.Number)
  /-- A cause in the caller's words. -/
  | described (text : String)
deriving DecidableEq

namespace ArgumentFault

def text : ArgumentFault → String
  | .emptyIdentifier => "Identifier cannot be empty"
  | .nulInIdentifier => "Identifier cannot contain NUL character"
  | .tableNames n =>
      "FROM takes a table name and an optional alias, got " ++ toString n ++ " parts"
  | .emptyColumn => "Column name cannot be empty"
  | .nonFinite x column => "Non-finite float " ++ x.display ++ " for column " ++ column
  | .emptyList column operator =>
      "Empty value list for " ++ column ++ " " ++ Text.upper operator
  | .page n => "page must be >= 1, got " ++ toString n.toInt
  | .pageSize n => "page size must be >= 1, got " ++ toString n.toInt
  | .offsetOverflow n size =>
      "offset overflows for page " ++ toString n.toInt ++ " x " ++ toString size.toInt
  | .nullScalar => "null is not a scalar value; use a unary operator such as IS NULL"
  | .nestedSequence => "nested sequences are not supported"
  | .objectScalar => "objects are not supported as condition values"
  | .numberRange n =>
      "number " ++ String.ofList n.write ++ " is not representable as int or float"
  | .described text => text

end ArgumentFault

inductive BuildError where
  | invalidArgument (fault : ArgumentFault)
  /-- The operator is blank; it is kept as it was given. -/
  | unsupportedOperator (operator : String)
  /-- A finished statement was refused. -/
  | invalidSql (text : String)
deriving DecidableEq

namespace BuildError

/-- The message shown for the error. An operator is quoted, because a blank one would not be
seen. -/
def message : BuildError → String
  | .invalidArgument fault => "Invalid argument: " ++ fault.text
  | .unsupportedOperator operator => "Unsupported operator: " ++ Text.quoted operator
  | .invalidSql text => "Invalid SQL: " ++ text

def isInvalidArgument : BuildError → Bool
  | .invalidArgument _ => true
  | _ => false

def isUnsupportedOperator : BuildError → Bool
  | .unsupportedOperator _ => true
  | _ => false

end BuildError

end SqlAssembly
