import LiveMap.Decimal.Shortest
import LiveMap.Json.Basic

/-!
# Writing JSON

Values are written without blanks. Strings escape the quote, the backslash and the control
characters below the space, and nothing else. A double is written with the fewest digits that
identify it. The writer puts its characters in front of what follows, so writing takes time
proportional to the length of the text.
-/

namespace LiveMap.Json

/-! ## Strings -/

/-- The escape for one of the control characters that has no letter of its own. -/
def controlEscape (c : Char) : List Char :=
  ['\\', 'u', '0', '0', Nat.digitChar (c.toNat / 16), Nat.digitChar (c.toNat % 16)]

/-- A character as it is written inside a string. -/
def escape (c : Char) : List Char :=
  if c = '"' then ['\\', '"']
  else if c = '\\' then ['\\', '\\']
  else if ' ' ≤ c then [c]
  else if c.toNat = 8 then ['\\', 'b']
  else if c = '\t' then ['\\', 't']
  else if c = '\n' then ['\\', 'n']
  else if c.toNat = 12 then ['\\', 'f']
  else if c = '\r' then ['\\', 'r']
  else controlEscape c

/-- A string in quotes, in front of `rest`. -/
def writeString (s : String) (rest : List Char) : List Char :=
  '"' :: s.toList.foldr (fun c rest => escape c ++ rest) ('"' :: rest)

/-! ## Numbers -/

/-- How the digits of a double are laid out. -/
structure FloatLayout where
  /-- The least exponent of the first digit that is written positionally. -/
  leastPositional : Int
  /-- The least exponent of the first digit that is no longer written positionally. -/
  leastScientific : Int

/-- From a hundred-thousandth up to sixteen digits before the point a double is written positionally
and always has a point. Other exponents are written with a sign and without padding. -/
def floatLayout : FloatLayout := ⟨-5, 16⟩

/-- Digits with a point after the `n`-th one, and at least one digit after the point. -/
def pointAfter (n : Nat) (digits : List Char) : List Char :=
  let whole := digits.take n ++ List.replicate (n - digits.length) '0'
  let fraction := digits.drop n
  whole ++ '.' :: (if fraction.isEmpty then ['0'] else fraction)

/-- Digits whose first one has the given exponent, written positionally. -/
def positional (digits : List Char) (exponent : Int) : List Char :=
  if 0 ≤ exponent then pointAfter (exponent.toNat + 1) digits
  else '0' :: '.' :: List.replicate ((-exponent).toNat - 1) '0' ++ digits

/-- Digits whose first one has the given exponent, written with the exponent. -/
def scientific (digits : List Char) (exponent : Int) : List Char :=
  let mantissa := match digits with
    | [d] => [d]
    | d :: rest => d :: '.' :: rest
    | [] => []
  let sign := if 0 ≤ exponent then '+' else '-'
  mantissa ++ 'e' :: sign :: Nat.toDigits 10 exponent.natAbs

/-- The text of a finite double without its sign. -/
def magnitudeText (x : Float) : List Char :=
  if x == 0 then ['0', '.', '0']
  else
    let d := Decimal.shortest x
    let digits := Nat.toDigits 10 d.digits
    let exponent : Int := d.exponent + (digits.length : Int) - 1
    if floatLayout.leastPositional ≤ exponent ∧ exponent < floatLayout.leastScientific then
      positional digits exponent
    else scientific digits exponent

/-- The text of a double. NaN and the infinities have none of their own and are written as null. -/
def floatText (x : Float) : List Char :=
  if !x.isFinite then ['n', 'u', 'l', 'l']
  else if (Binary64.ofFloat x).negative then '-' :: magnitudeText (-x) else magnitudeText x

/-- The text of an integer. -/
def intText (n : Int) : List Char :=
  if n < 0 then '-' :: Nat.toDigits 10 n.natAbs else Nat.toDigits 10 n.natAbs

/-- The text of a number. -/
def Number.text : Number → List Char
  | int n => intText n
  | float x => floatText x

/-! ## Values -/

mutual

/-- A value, in front of `rest`. -/
def write : Json → List Char → List Char
  | null, rest => 'n' :: 'u' :: 'l' :: 'l' :: rest
  | bool true, rest => 't' :: 'r' :: 'u' :: 'e' :: rest
  | bool false, rest => 'f' :: 'a' :: 'l' :: 's' :: 'e' :: rest
  | num n, rest => n.text ++ rest
  | str s, rest => writeString s rest
  | arr items, rest => '[' :: writeItems items (']' :: rest)
  | obj members, rest => '\x7b' :: writeMembers members ('\x7d' :: rest)

/-- Items with commas between them, in front of `rest`. -/
def writeItems : List Json → List Char → List Char
  | [], rest => rest
  | [v], rest => write v rest
  | v :: w :: more, rest => write v (',' :: writeItems (w :: more) rest)

/-- Members with commas between them, in front of `rest`. -/
def writeMembers : List (String × Json) → List Char → List Char
  | [], rest => rest
  | [(k, v)], rest => writeString k (':' :: write v rest)
  | (k, v) :: m :: more, rest =>
    writeString k (':' :: write v (',' :: writeMembers (m :: more) rest))

end

/-- The text of a value. -/
def render (v : Json) : String := String.ofList (write v [])

end LiveMap.Json
