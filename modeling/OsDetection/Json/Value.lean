import OsDetection.Numeral.Shortest

/-!
# JSON values

The values of JSON, with numbers kept as they are written, and their printed form: every member and
item on a line of its own, two spaces further in than what holds it. `Number.ofBinary64` writes a
binary number with the fewest digits that read back as the same number.
-/

namespace OsDetection.Json

open OsDetection.Numeral

/-- A number as it is written. -/
structure Number where
  negative : Bool
  whole : List Char
  /-- The digits after the point, if there is a point. -/
  fraction : Option (List Char)
  /-- Sign (whether it is negative) and digits of the exponent, if there is one. -/
  exponent : Option (Bool × List Char)
  deriving DecidableEq, Repr

/-- A value. A string is absent where its escapes name half of a surrogate pair alone. -/
inductive Value where
  | null
  | bool (b : Bool)
  | number (n : Number)
  | string (text : Option String)
  | array (items : List Value)
  | object (members : List (Option String × Value))

namespace Number

/-- A natural number as it is usually written. -/
def ofNat (n : Nat) : Number := ⟨false, Nat.toDigits 10 n, none, none⟩

/-- A decimal other than zero, with the point after its digits or among them or zeros before them
for magnitudes from `1e-5` up to `1e16`, and with an exponent beyond. -/
def ofDecimal (negative : Bool) (d : Decimal) : Number :=
  let digits := Nat.toDigits 10 d.digits
  let point : Int := digits.length + d.exponent
  if 0 ≤ d.exponent ∧ point ≤ 16 then
    ⟨negative, digits ++ List.replicate d.exponent.toNat '0', some ['0'], none⟩
  else if 0 < point ∧ point ≤ 16 then
    ⟨negative, digits.take point.toNat, some (digits.drop point.toNat), none⟩
  else if -5 < point ∧ point ≤ 0 then
    ⟨negative, ['0'], some (List.replicate (-point).toNat '0' ++ digits), none⟩
  else
    let fraction := if digits.length = 1 then none else some (digits.drop 1)
    let exponent := point - 1
    ⟨negative, digits.take 1, fraction, some (exponent < 0, Nat.toDigits 10 exponent.natAbs)⟩

/-- The shortest writing of a binary number. A whole number keeps a zero after the point. -/
def ofBinary64 (x : Binary64) : Number :=
  if x.isZero then ⟨x.negative, ['0'], some ['0'], none⟩
  else ofDecimal x.negative (Decimal.shortest x.magnitude)

def text (n : Number) : List Char :=
  (if n.negative then ['-'] else []) ++ n.whole ++
    (match n.fraction with
      | some digits => '.' :: digits
      | none => []) ++
    match n.exponent with
    | some (negative, digits) => 'e' :: (if negative then ['-'] else []) ++ digits
    | none => []

end Number

/-- A control character has an escape of its own or is written by its code point. -/
def escape (c : Char) : List Char :=
  if c = '\"' then ['\\', '\"']
  else if c = '\\' then ['\\', '\\']
  else if c = '\x08' then ['\\', 'b']
  else if c = '\x0c' then ['\\', 'f']
  else if c = '\n' then ['\\', 'n']
  else if c = '\r' then ['\\', 'r']
  else if c = '\t' then ['\\', 't']
  else if c.toNat < 0x20 then
    let digits := Nat.toDigits 16 c.toNat
    ['\\', 'u'] ++ List.replicate (4 - digits.length) '0' ++ digits
  else [c]

/-- A text as a JSON string. -/
def stringText (text : String) : List Char :=
  '\"' :: text.toList.flatMap escape ++ ['\"']

namespace Value

/-- A string value. -/
def ofString (text : String) : Value := string (some text)

/-- An object with these members. -/
def ofMembers (members : List (String × Value)) : Value :=
  object (members.map fun m => (some m.1, m.2))

def newLine (depth : Nat) : List Char :=
  '\n' :: List.replicate (2 * depth) ' '

mutual

/-- The printed form of a value that stands `depth` levels deep. -/
def pretty (depth : Nat) : Value → List Char
  | null => "null".toList
  | bool b => (if b then "true" else "false").toList
  | number n => n.text
  | string text => stringText (text.getD "")
  | array [] => ['[', ']']
  | array (item :: items) =>
    '[' :: newLine (depth + 1) ++ pretty (depth + 1) item ++ prettyItems (depth + 1) items ++
      newLine depth ++ [']']
  | object [] => ['\x7b', '\x7d']
  | object ((key, value) :: members) =>
    '\x7b' :: newLine (depth + 1) ++ stringText (key.getD "") ++ [':', ' '] ++
      pretty (depth + 1) value ++ prettyMembers (depth + 1) members ++ newLine depth ++ ['\x7d']

/-- The items of an array after the first. -/
def prettyItems (depth : Nat) : List Value → List Char
  | [] => []
  | item :: items => ',' :: newLine depth ++ pretty depth item ++ prettyItems depth items

/-- The members of an object after the first. -/
def prettyMembers (depth : Nat) : List (Option String × Value) → List Char
  | [] => []
  | (key, value) :: members =>
    ',' :: newLine depth ++ stringText (key.getD "") ++ [':', ' '] ++ pretty depth value ++
      prettyMembers depth members

end

end Value

end OsDetection.Json
