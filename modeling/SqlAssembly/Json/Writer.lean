import SqlAssembly.Json.Document

/-!
# Writing JSON

The compact text of a document: no blanks, and only what must be escaped is escaped. A double
always shows a point or an exponent, so that no reader takes it for a whole number.
-/

namespace SqlAssembly.Json

open Numeric

/-! ## Texts -/

def controlCode (c : Char) : List Char :=
  [Nat.digitChar (c.toNat / 16), Nat.digitChar (c.toNat % 16)]

/-- One character inside quotes: the quote, the backslash and the controls are escaped. -/
def escaped (c : Char) : List Char :=
  match c with
  | '"' => ['\\', '"']
  | '\\' => ['\\', '\\']
  | '\x08' => ['\\', 'b']
  | '\x0c' => ['\\', 'f']
  | '\n' => ['\\', 'n']
  | '\r' => ['\\', 'r']
  | '\t' => ['\\', 't']
  | c => if c < ' ' then '\\' :: 'u' :: '0' :: '0' :: controlCode c else [c]

def writeText (s : String) : List Char := '"' :: (s.toList.flatMap escaped ++ ['"'])

/-! ## Numbers -/

/-- The shortest decimal of a finite double, a tie going to the even digit: plain while the
leading digit stands between the fifth decimal place and the sixteenth digit before the point,
otherwise with an exponent. -/
def writeFinite (x : Double) : List Char :=
  x.signText ++
    if x.code = 0 then "0.0".toList
    else
      let d := Decimal.shortest .double .even x.code
      if -5 ≤ d.leadingExponent ∧ d.leadingExponent ≤ 15 then
        d.positional ++ if 0 ≤ d.exponent then ".0".toList else []
      else d.scientific

def Number.write : Number → List Char
  | .whole n => (toString n.toNat).toList
  | .below n => (toString n.toInt).toList
  | .real x => if x.IsFinite then writeFinite x else "null".toList

/-! ## Documents -/

mutual

def write : Json → List Char
  | .null => "null".toList
  | .bool true => "true".toList
  | .bool false => "false".toList
  | .number n => n.write
  | .text s => writeText s
  | .array [] => "[]".toList
  | .array (item :: items) => '[' :: (write item ++ writeItems items)
  | .object [] => ['\x7b', '\x7d']
  | .object ((name, value) :: fields) =>
      '\x7b' :: (writeText name ++ ':' :: (write value ++ writeFields fields))

/-- The items after the first, and the end of the array. -/
def writeItems : List Json → List Char
  | [] => [']']
  | item :: items => ',' :: (write item ++ writeItems items)

def writeFields : List (String × Json) → List Char
  | [] => ['\x7d']
  | (name, value) :: fields =>
      ',' :: (writeText name ++ ':' :: (write value ++ writeFields fields))

end

end SqlAssembly.Json
