/-!
# Syntax errors of JSON texts

A reader that stops says what is wrong and where. The place is counted in bytes of the UTF-8 form of
the text: the line is one more than the number of line feeds before it, and the column is its
distance from the last of them.
-/

namespace LiveMap.Json

/-- What is wrong with a text. -/
inductive SyntaxFault where
  /-- The text ends where a value is due. -/
  | eofValue
  /-- The text ends inside a string. -/
  | eofString
  /-- The text ends inside an array. -/
  | eofArray
  /-- The text ends inside an object. -/
  | eofObject
  /-- No value starts like this. -/
  | expectedValue
  /-- A word is misspelt. -/
  | expectedWord
  /-- A number is malformed. -/
  | invalidNumber
  /-- A number is beyond the doubles. -/
  | numberOutOfRange
  /-- A control character stands in a string. -/
  | controlCharacter
  /-- There is no such escape. -/
  | invalidEscape
  /-- One half of a surrogate pair stands where the other is due. -/
  | loneSurrogate
  /-- The first half of a surrogate pair is not followed by an escape. -/
  | unexpectedEndOfEscape
  /-- An element is followed by neither a comma nor the end of the array. -/
  | expectedCommaOrBracket
  /-- A member is followed by neither a comma nor the end of the object. -/
  | expectedCommaOrBrace
  /-- A comma stands before the end of an array or object. -/
  | trailingComma
  /-- A key is not a string. -/
  | keyNotString
  /-- A key is not followed by a colon. -/
  | expectedColon
  /-- Something follows the value. -/
  | trailingCharacters
  /-- Too many arrays and objects are open. -/
  | recursionLimit
  deriving DecidableEq, Repr

/-- The wording of a fault. -/
def SyntaxFault.message : SyntaxFault → String
  | eofValue => "EOF while parsing a value"
  | eofString => "EOF while parsing a string"
  | eofArray => "EOF while parsing a list"
  | eofObject => "EOF while parsing an object"
  | expectedValue => "expected value"
  | expectedWord => "expected ident"
  | invalidNumber => "invalid number"
  | numberOutOfRange => "number out of range"
  | controlCharacter => "control character (\\u0000-\\u001F) found while parsing a string"
  | invalidEscape => "invalid escape"
  | loneSurrogate => "lone leading surrogate in hex escape"
  | unexpectedEndOfEscape => "unexpected end of hex escape"
  | expectedCommaOrBracket => "expected \x60,\x60 or \x60]\x60"
  | expectedCommaOrBrace => "expected \x60,\x60 or \x60\x7d\x60"
  | trailingComma => "trailing comma"
  | keyNotString => "key must be a string"
  | expectedColon => "expected \x60:\x60"
  | trailingCharacters => "trailing characters"
  | recursionLimit => "recursion limit exceeded"

/-- A fault and the place where the reader met it. -/
structure Mishap where
  /-- What is wrong. -/
  fault : SyntaxFault
  /-- What was still unread. -/
  rest : List Char
  /-- The distance of the place from the start of the unread part, in bytes. -/
  offset : Int

/-- A fault with its line and column. -/
structure SyntaxError where
  /-- What is wrong. -/
  fault : SyntaxFault
  /-- The line, counted from one. -/
  line : Nat
  /-- The bytes before the place on its line. -/
  column : Nat

/-- The wording of an error. -/
def SyntaxError.message (e : SyntaxError) : String :=
  e.fault.message ++ " at line " ++ toString e.line ++ " column " ++ toString e.column

/-- The number of bytes of the UTF-8 form of some characters. -/
def byteCount (cs : List Char) : Nat := cs.foldl (fun n c => n + c.utf8Size) 0

/-- The line and column reached after some bytes, from a start in the middle of a text. -/
def advancePlace (place : Nat × Nat) (byte : UInt8) : Nat × Nat :=
  if byte = 10 then (place.1 + 1, 0) else (place.1, place.2 + 1)

/-- The error of a reader that met a mishap in a text. The place is never beyond the text. -/
def Mishap.locate (m : Mishap) (text : String) : SyntaxError :=
  let bytes := text.toUTF8.toList
  let place : Int := (bytes.length : Int) - (byteCount m.rest : Int) + m.offset
  let (line, column) := (bytes.take place.toNat).foldl advancePlace (1, 0)
  ⟨m.fault, line, column⟩

end LiveMap.Json
