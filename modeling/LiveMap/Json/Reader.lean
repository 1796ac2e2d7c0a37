import LiveMap.Json.Syntax
import LiveMap.Json.Tree

/-!
# Reading JSON

One recursive-descent reader serves two purposes. Two kinds of faults leave the grammar intact:
leaves without a value and nesting beyond the limit. The reader hands them to an `Excuse`. The
strict reader excuses nothing, so what it returns is a value. The lenient reader marks the leaf and
goes on.

The recursion is on a fuel that each step lowers by one. Of three steps in a row at least one reads
a character, so three times the length of the text is enough.
-/

namespace LiveMap.Json

/-- The most arrays and objects that may stand inside each other. -/
def nestingLimit : Nat := 127

/-- How to go on after a fault that leaves the grammar intact: stop, or mark the place. -/
abbrev Excuse (ε : Type) := Mishap → Except Mishap ε

namespace Reader

variable {ε : Type}

/-- Blanks: the space, the tab, the line feed and the carriage return. -/
def isBlank (c : Char) : Bool := c = ' ' || c = '\t' || c = '\n' || c = '\r'

/-- What follows the blanks at the start. -/
def skipBlanks (text : List Char) : List Char := text.dropWhile isBlank

/-- Stops at the first unread character. -/
def stop {α : Type} (fault : SyntaxFault) (rest : List Char) : Except Mishap α :=
  .error ⟨fault, rest, if rest.isEmpty then 0 else 1⟩

/-! ## Words and numbers -/

/-- Reads the letters of a word. -/
def word : (letters : List Char) → (text : List Char) → Except Mishap (List Char)
  | [], text => .ok text
  | _ :: _, [] => stop .eofValue []
  | l :: letters, c :: rest =>
    if c = l then word letters rest else stop .expectedWord (c :: rest)

/-- The value of a decimal digit. -/
def digitValue (c : Char) : Nat := c.toNat - '0'.toNat

/-- The digits at the start. -/
def digits (text : List Char) : List Nat × List Char :=
  ((text.takeWhile Char.isDigit).map digitValue, text.dropWhile Char.isDigit)

/-- One or more digits. -/
def someDigits (text : List Char) : Except Mishap (List Nat × List Char) :=
  match digits text with
  | ([], []) => stop .eofValue []
  | ([], rest) => stop .invalidNumber rest
  | found => .ok found

/-- The digits before the point: a single zero, or digits that do not start with zero. -/
def wholePart (text : List Char) : Except Mishap (List Nat × List Char) :=
  match text with
  | '0' :: rest =>
    match digits rest with
    | ([], _) => .ok ([0], rest)
    | _ => stop .invalidNumber rest
  | _ => someDigits text

/-- The point and the digits after it. -/
def fractionPart (text : List Char) : Except Mishap (Option (List Nat) × List Char) :=
  match text with
  | '.' :: rest => do
    let (found, rest) ← someDigits rest
    return (some found, rest)
  | _ => .ok (none, text)

/-- A sign, if there is one: whether it is a minus. -/
def exponentSign (text : List Char) : Bool × List Char :=
  match text with
  | '-' :: rest => (true, rest)
  | '+' :: rest => (false, rest)
  | _ => (false, text)

/-- The exponent. -/
def exponentPart (text : List Char) : Except Mishap (Option ExponentPart × List Char) :=
  match text with
  | c :: rest =>
    if c = 'e' || c = 'E' then do
      let (negative, rest) := exponentSign rest
      let (found, rest) ← someDigits rest
      return (some ⟨negative, found⟩, rest)
    else .ok (none, text)
  | [] => .ok (none, [])

/-- A numeral after its sign. -/
def unsigned (negative : Bool) (text : List Char) : Except Mishap (Numeral × List Char) := do
  let (whole, rest) ← wholePart text
  let (fraction, rest) ← fractionPart rest
  let (exponent, rest) ← exponentPart rest
  return (⟨negative, whole, fraction, exponent⟩, rest)

/-- A numeral. -/
def numeral (text : List Char) : Except Mishap (Numeral × List Char) :=
  match text with
  | '-' :: rest => unsigned true rest
  | _ => unsigned false text

/-- A number. -/
def number (excuse : Excuse ε) (text : List Char) : Except Mishap (Tree ε × List Char) := do
  let (n, rest) ← numeral text
  match n.value with
  | .ok v => return (.num (.ok v), rest)
  | .error unread =>
    let mark ← excuse ⟨.numberOutOfRange, rest, -(unread : Int)⟩
    return (.num (.error mark), rest)

/-! ## Strings -/

/-- The value of a hexadecimal digit. -/
def hexValue? (c : Char) : Option Nat :=
  if c.isDigit then some (c.toNat - '0'.toNat)
  else if 'a' ≤ c ∧ c ≤ 'f' then some (c.toNat - 'a'.toNat + 10)
  else if 'A' ≤ c ∧ c ≤ 'F' then some (c.toNat - 'A'.toNat + 10)
  else none

/-- The number that hexadecimal digits stand for. -/
def hexNumber? (cs : List Char) : Option Nat :=
  cs.foldl (fun acc c => do return (← acc) * 16 + (← hexValue? c)) (some 0)

/-- Four hexadecimal digits. -/
def fourHex (text : List Char) : Except Mishap (Nat × List Char) :=
  if byteCount (text.take 4) < 4 then stop .eofString []
  else
    match hexNumber? (text.take 4) with
    | some n => .ok (n, text.drop 4)
    | none => .error ⟨.invalidEscape, text, 4⟩

/-- Whether a 16-bit unit is the first half of a surrogate pair. -/
def isLeading (n : Nat) : Bool := decide (0xD800 ≤ n) && decide (n < 0xDC00)

/-- Whether a 16-bit unit is the second half of a surrogate pair. -/
def isTrailing (n : Nat) : Bool := decide (0xDC00 ≤ n) && decide (n < 0xE000)

/-- The character of a surrogate pair. -/
def pairChar (leading trailing : Nat) : Char :=
  Char.ofNat (0x10000 + (leading - 0xD800) * 0x400 + (trailing - 0xDC00))

/-- A character given by its number, after the letter `u`; or the mishap that half a surrogate pair
is, which leaves the grammar intact. -/
def unicodeEscape (text : List Char) : Except Mishap (Except Mishap Char × List Char) := do
  let (n, rest) ← fourHex text
  if isTrailing n then return (.error ⟨.loneSurrogate, rest, 0⟩, rest)
  else if !isLeading n then return (.ok (Char.ofNat n), rest)
  else
    match rest with
    | [] => stop .eofString []
    | ['\\'] => stop .eofString []
    | '\\' :: 'u' :: rest => do
      let (m, rest) ← fourHex rest
      if isTrailing m then return (.ok (pairChar n m), rest)
      else return (.error ⟨.loneSurrogate, rest, 0⟩, rest)
    | '\\' :: other => return (.error ⟨.unexpectedEndOfEscape, other, 1⟩, rest)
    | _ => return (.error ⟨.unexpectedEndOfEscape, rest, 1⟩, rest)

/-- The character that an escape letter stands for. -/
def escapeLetter? (c : Char) : Option Char :=
  match c with
  | '"' => some '"'
  | '\\' => some '\\'
  | '/' => some '/'
  | 'b' => some (Char.ofNat 8)
  | 'f' => some (Char.ofNat 12)
  | 'n' => some '\n'
  | 'r' => some '\r'
  | 't' => some '\t'
  | _ => none

/-- The rest of a string up to its closing quote. `acc` holds the characters read so far, the newest
first, or the mark of a spoiled string. -/
def stringBody (excuse : Excuse ε) :
    (fuel : Nat) → (acc : Except ε (List Char)) → List Char →
      Except Mishap (Except ε String × List Char)
  | 0, _, _ => stop .eofString []
  | fuel + 1, acc, text =>
    match text with
    | [] => stop .eofString []
    | '"' :: rest => .ok (acc.map fun cs => String.ofList cs.reverse, rest)
    | '\\' :: [] => stop .eofString []
    | '\\' :: 'u' :: rest => do
      match ← unicodeEscape rest with
      | (.ok c, rest) => stringBody excuse fuel (acc.map (c :: ·)) rest
      | (.error m, rest) =>
        let mark ← excuse m
        stringBody excuse fuel (acc.bind fun _ => .error mark) rest
    | '\\' :: letter :: rest =>
      match escapeLetter? letter with
      | some c => stringBody excuse fuel (acc.map (c :: ·)) rest
      | none => stop .invalidEscape (letter :: rest)
    | c :: rest =>
      if c < ' ' then stop .controlCharacter (c :: rest)
      else stringBody excuse fuel (acc.map (c :: ·)) rest

/-- A string after its opening quote. -/
def string (excuse : Excuse ε) (text : List Char) : Except Mishap (Except ε String × List Char) :=
  stringBody excuse (text.length + 1) (.ok []) text

/-! ## Values -/

/-- What follows a key: blanks and a colon. -/
def colon (text : List Char) : Except Mishap (List Char) :=
  match skipBlanks text with
  | [] => stop .eofObject []
  | ':' :: rest => .ok rest
  | rest => stop .expectedColon rest

/-- Opens an array or object. `depth` more may be open; the result is how many may be open inside.
-/
def enter (excuse : Excuse ε) (depth : Nat) (text : List Char) : Except Mishap Nat :=
  match depth with
  | depth + 1 => .ok depth
  | 0 => do
    let _ ← excuse ⟨.recursionLimit, text, 1⟩
    return 0

mutual

/-- A value. -/
def value (excuse : Excuse ε) : (fuel depth : Nat) → List Char → Except Mishap (Tree ε × List Char)
  | 0, _, _ => stop .eofValue []
  | fuel + 1, depth, text =>
    match skipBlanks text with
    | [] => stop .eofValue []
    | 'n' :: rest => do return (.null, ← word ['u', 'l', 'l'] rest)
    | 't' :: rest => do return (.bool true, ← word ['r', 'u', 'e'] rest)
    | 'f' :: rest => do return (.bool false, ← word ['a', 'l', 's', 'e'] rest)
    | '"' :: rest => do
      let (s, rest) ← string excuse rest
      return (.str s, rest)
    | '[' :: rest => do
      let depth ← enter excuse depth ('[' :: rest)
      elements excuse fuel depth [] rest
    | '\x7b' :: rest => do
      let depth ← enter excuse depth ('\x7b' :: rest)
      members excuse fuel depth [] rest
    | c :: rest =>
      if c = '-' || c.isDigit then number excuse (c :: rest)
      else stop .expectedValue (c :: rest)

/-- The rest of an array. `acc` holds the elements read so far, the newest first. -/
def elements (excuse : Excuse ε) :
    (fuel depth : Nat) → (acc : List (Tree ε)) → List Char → Except Mishap (Tree ε × List Char)
  | 0, _, _, _ => stop .eofArray []
  | fuel + 1, depth, acc, text =>
    match skipBlanks text with
    | [] => stop .eofArray []
    | ']' :: rest => .ok (.arr acc.reverse, rest)
    | c :: rest =>
      if acc.isEmpty then do
        let (t, rest) ← value excuse fuel depth (c :: rest)
        elements excuse fuel depth (t :: acc) rest
      else if c = ',' then
        match skipBlanks rest with
        | ']' :: rest => stop .trailingComma (']' :: rest)
        | rest => do
          let (t, rest) ← value excuse fuel depth rest
          elements excuse fuel depth (t :: acc) rest
      else stop .expectedCommaOrBracket (c :: rest)

/-- The rest of an object. `acc` holds the members read so far, the newest first. -/
def members (excuse : Excuse ε) :
    (fuel depth : Nat) → (acc : List (Except ε String × Tree ε)) → List Char →
      Except Mishap (Tree ε × List Char)
  | 0, _, _, _ => stop .eofObject []
  | fuel + 1, depth, acc, text =>
    match skipBlanks text with
    | [] => stop .eofObject []
    | '\x7d' :: rest => .ok (.obj acc.reverse, rest)
    | c :: rest =>
      if acc.isEmpty then member excuse fuel depth acc (c :: rest)
      else if c = ',' then
        match skipBlanks rest with
        | [] => stop .eofValue []
        | '\x7d' :: rest => stop .trailingComma ('\x7d' :: rest)
        | rest => member excuse fuel depth acc rest
      else stop .expectedCommaOrBrace (c :: rest)

/-- A member and the rest of its object. -/
def member (excuse : Excuse ε) :
    (fuel depth : Nat) → (acc : List (Except ε String × Tree ε)) → List Char →
      Except Mishap (Tree ε × List Char)
  | 0, _, _, _ => stop .eofObject []
  | fuel + 1, depth, acc, text =>
    match text with
    | '"' :: rest => do
      let (key, rest) ← string excuse rest
      let rest ← colon rest
      let (t, rest) ← value excuse fuel depth rest
      members excuse fuel depth ((key, t) :: acc) rest
    | _ => stop .keyNotString text

end

/-- A whole text: one value and nothing after it but blanks. -/
def whole (excuse : Excuse ε) (text : String) : Except Mishap (Tree ε) := do
  let cs := text.toList
  let (t, rest) ← value excuse (3 * cs.length + 3) nestingLimit cs
  match skipBlanks rest with
  | [] => return t
  | rest => stop .trailingCharacters rest

end Reader

/-- The value that a text stands for. -/
def parse (text : String) : Except SyntaxError Json :=
  match Reader.whole (fun m => (.error m : Except Mishap Empty)) text with
  | .ok t => .ok t.sound
  | .error m => .error (m.locate text)

/-- The syntax tree of a text that fits the grammar, whatever its leaves and however deep. -/
def Tree.parse? (text : String) : Option (Tree Unit) :=
  (Reader.whole (fun _ => .ok ()) text).toOption

end LiveMap.Json
