import SqlAssembly.Text.UnprintableTable

/-!
# Quoted text

A text in double quotes for error messages. What could not be seen in a message is written with
a backslash: the quote, the backslash, the common controls by one letter, and every other
character that is unprintable or would attach itself to the character before it by its code.
-/

namespace SqlAssembly.Text

def inRanges (ranges : List (Nat × Nat)) (code : Nat) : Bool :=
  ranges.any fun range => range.1 ≤ code && code ≤ range.2

def isGraphemeExtend (c : Char) : Bool := inRanges graphemeExtendRanges c.toNat

/-- The halfwidth sound marks of kana: they extend the character before them, but are shown in a
cell of their own. -/
def isHalfwidthMark (c : Char) : Bool := c = '\uff9e' || c = '\uff9f'

def isAttached (c : Char) : Bool := isGraphemeExtend c && !isHalfwidthMark c

/-- The letters of Hangul that only fill a place in a syllable and show nothing. -/
def isHangulFiller (c : Char) : Bool :=
  c = '\u115f' || c = '\u1160' || c = '\u3164' || c = '\uffa0'

/-- The character has a glyph of its own, or is the space. -/
def isPrintable (c : Char) : Bool := !inRanges unprintableRanges c.toNat && !isHangulFiller c

/-- The code point in lower-case hexadecimal digits without leading zeros, between braces. -/
def escapedCode (c : Char) : List Char :=
  '\\' :: 'u' :: '\x7b' :: (Nat.toDigits 16 c.toNat ++ ['\x7d'])

def quotedChar (c : Char) : List Char :=
  match c with
  | '\x00' => ['\\', '0']
  | '\t' => ['\\', 't']
  | '\r' => ['\\', 'r']
  | '\n' => ['\\', 'n']
  | '"' => ['\\', '"']
  | '\\' => ['\\', '\\']
  | c => if isAttached c || !isPrintable c then escapedCode c else [c]

def quoted (s : String) : String :=
  "\"" ++ String.ofList (s.toList.flatMap quotedChar) ++ "\""

end SqlAssembly.Text
