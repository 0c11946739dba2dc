import RadioFrontEnd.Binary64.Shortest
import RadioFrontEnd.Text.Quoted
import RadioFrontEnd.Yaml.Node

/-!
# What scalars mean

A plain scalar is null, a boolean, an integer, a number with a fraction, or else a text; the first
reading that applies counts.  A quoted or block scalar is a text.  A tag of the language can ask for
one reading, and then the scalar has to allow it; a private tag leaves a plain scalar as it is, and
any other tag makes it a text.

Integers are decimal, or have one of the marks `0x`, `0o` and `0b`.  A decimal one with needless
zeros in front is a text, because in that form it might mean an octal number.
-/

namespace RadioFrontEnd.Yaml

/-- A number that may have a fraction. -/
inductive Number where
  /-- A finite number with a sign. -/
  | finite (negative : Bool) (magnitude : Binary64)
  /-- An infinity. -/
  | infinite (negative : Bool)
  /-- Not a number. -/
  | undefined
  deriving DecidableEq

/-- A number as messages show it. -/
def Number.text : Number → String
  | finite false x => x.text
  | finite true x => "-" ++ x.text
  | infinite false => "inf"
  | infinite true => "-inf"
  | undefined => "NaN"

/-- What a scalar means. -/
inductive Value where
  /-- Nothing. -/
  | null
  /-- A truth value. -/
  | boolean (b : Bool)
  /-- An integer. -/
  | integer (n : Int)
  /-- A number that may have a fraction. -/
  | number (x : Number)
  /-- A text. -/
  | text (s : String)
  deriving DecidableEq

namespace Value

/-- Does a text mean null? -/
def isNull (s : String) : Bool := ["null", "Null", "NULL", "~"].contains s

/-- The boolean that a text means. -/
def readBoolean? (s : String) : Option Bool :=
  if ["true", "True", "TRUE"].contains s then some true
  else if ["false", "False", "FALSE"].contains s then some false
  else none

/-- Go past a sign. -/
def dropSign : List Char → List Char
  | '+' :: cs | '-' :: cs => cs
  | cs => cs

/-- Are these decimal digits with a needless zero in front, perhaps after a sign? -/
def hasNeedlessZero (cs : List Char) : Bool :=
  match dropSign cs with
  | '0' :: d :: ds => (d :: ds).all Char.isDigit
  | _ => false

/-- The natural number that a text without a sign means. -/
def readMagnitude? : List Char → Option Nat
  | '0' :: 'x' :: cs => Numeral.read? 16 cs
  | '0' :: 'o' :: cs => Numeral.read? 8 cs
  | '0' :: 'b' :: cs => Numeral.read? 2 cs
  | cs => if hasNeedlessZero cs then none else Numeral.read? 10 cs

/-- The natural number below a bound that a text means, which may have a plus sign. -/
def readNatural? (bound : Nat) : List Char → Option Nat
  | '+' :: cs => (readMagnitude? cs).filter (· < bound)
  | cs => (readMagnitude? cs).filter (· < bound)

/-- The integer of at most 128 bits that a text means. -/
def readInteger? : List Char → Option Int
  | '-' :: cs => ((readMagnitude? cs).filter (· ≤ 1 <<< 127)).map fun n => -(n : Int)
  | cs => (readNatural? (1 <<< 128) cs).map fun n => (n : Int)

/-- The integer after the exponent sign of a decimal. -/
def readExponent? : List Char → Option Int
  | '-' :: cs => (Numeral.read? 10 cs).map fun n => -(n : Int)
  | '+' :: cs => (Numeral.read? 10 cs).map fun n => (n : Int)
  | cs => (Numeral.read? 10 cs).map fun n => (n : Int)

/-- The number nearest to a decimal with a point, an exponent or both; none if there is no digit
or the number is too large. -/
def readFinite? (cs : List Char) : Option Binary64 := do
  let whole := cs.takeWhile Char.isDigit
  let rest := cs.dropWhile Char.isDigit
  let (fraction, rest) := match rest with
    | '.' :: ds => (ds.takeWhile Char.isDigit, ds.dropWhile Char.isDigit)
    | _ => ([], rest)
  let exponent ← match rest with
    | [] => some 0
    | 'e' :: ds | 'E' :: ds => readExponent? ds
    | _ => none
  Binary64.ofDecimal? (← Numeral.read? 10 (whole ++ fraction)) (exponent - fraction.length)

/-- The infinity that a text without a sign means. -/
def isInfinite (s : List Char) : Bool :=
  [".inf", ".Inf", ".INF"].contains (String.ofList s)

/-- The number that a text means. -/
def readNumber? : List Char → Option Number
  | '+' :: cs =>
    if isInfinite cs then some (.infinite false)
    else (readFinite? cs).map (.finite false)
  | '-' :: cs =>
    if isInfinite cs then some (.infinite true)
    else (readFinite? cs).map (.finite true)
  | cs =>
    if isInfinite cs then some (.infinite false)
    else if [".nan", ".NaN", ".NAN"].contains (String.ofList cs) then some .undefined
    else (readFinite? cs).map (.finite false)

/-- What a plain scalar means. -/
def ofPlain (s : String) : Value :=
  if s = "" ∨ isNull s then null
  else match readBoolean? s with
    | some b => boolean b
    | none =>
      match readInteger? s.toList with
      | some n => integer n
      | none =>
        if hasNeedlessZero s.toList then text s
        else match readNumber? s.toList with
          | some x => number x
          | none => text s

/-- The value in words.  Integers past 64 bits are named by their width. -/
def describe : Value → String
  | null => "unit value"
  | boolean b => s!"boolean \x60{b}\x60"
  | integer n =>
    let width := if UInt64.size ≤ n then " as u128" else if n < Int64.minValue.toInt then " as i128"
      else ""
    s!"integer \x60{n}\x60{width}"
  | number x => s!"floating point \x60{x.text}\x60"
  | text s => "string " ++ Text.quoted s

end Value

namespace Tag

/-- The tag of booleans. -/
def boolean : String := "tag:yaml.org,2002:bool"

/-- The tag of integers. -/
def integer : String := "tag:yaml.org,2002:int"

/-- The tag of numbers that may have a fraction. -/
def number : String := "tag:yaml.org,2002:float"

/-- The tag of null. -/
def null : String := "tag:yaml.org,2002:null"

/-- A tag without a meaning in the language. -/
def isPrivate (tag : String) : Bool := tag.startsWith "!"

end Tag

/-- A scalar does not allow the reading that its tag asks for. -/
structure TagMismatch where
  /-- The scalar. -/
  text : String
  /-- The reading in words. -/
  expected : String
  deriving DecidableEq

/-- What a scalar means, in view of its tag and of how it is written. -/
def Value.ofScalar (tag : Option String) (style : ScalarStyle) (s : String) :
    Except TagMismatch Value :=
  let checked (x : Option Value) (expected : String) : Except TagMismatch Value :=
    match x with
    | some v => .ok v
    | none => .error ⟨s, expected⟩
  match tag with
  | some tag =>
    if tag = Tag.boolean then checked ((Value.readBoolean? s).map .boolean) "a boolean"
    else if tag = Tag.integer then checked ((Value.readInteger? s.toList).map .integer) "an integer"
    else if tag = Tag.number then checked ((Value.readNumber? s.toList).map .number) "a float"
    else if tag = Tag.null then checked (if Value.isNull s then some .null else none) "null"
    else if Tag.isPrivate tag ∧ style = .plain then .ok (.ofPlain s)
    else .ok (.text s)
  | none => .ok (if style = .plain then .ofPlain s else .text s)

end RadioFrontEnd.Yaml
