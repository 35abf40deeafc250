import SyntheticTable.Number.Shortest

/-!
# Written numbers

A layout says how the digits of a number are set out: from where on a power of
ten is written, whether a whole number keeps a point, and which words stand
for infinity and for no number.  The digits themselves are those of the
shortest decimal.
-/

namespace SyntheticTable

/-- How numbers are set out. -/
structure NumberLayout where
  /--
  The least and the greatest exponent of the leading digit for which no power
  of ten is written; without bounds none is ever written.
  -/
  positional? : Option (Int × Int)
  /-- What follows the digits of a whole number. -/
  afterWhole : String
  infinity : String
  notANumber : String
  tie : DecimalTie

namespace NumberLayout

/-- The layout of numbers in a YAML document. -/
def yaml : NumberLayout where
  positional? := some (-6, 12)
  afterWhole := ".0"
  infinity := ".inf"
  notANumber := ".nan"
  tie := .toEven

/-- The layout of numbers in a sentence. -/
def prose : NumberLayout where
  positional? := none
  afterWhole := ""
  infinity := "inf"
  notANumber := "NaN"
  tie := .upward

/-- The layout of finite numbers in a sentence that tells them from integers. -/
def pointedProse : NumberLayout :=
  { prose with afterWhole := ".0" }

/-- Digits with the point put in its place. -/
def positional (layout : NumberLayout) (decimal : Decimal) : List Char :=
  let digits := decimalDigits decimal.digits
  let places := (-decimal.exponent).toNat
  if 0 ≤ decimal.exponent then
    digits ++ List.replicate decimal.exponent.toNat '0'
      ++ layout.afterWhole.toList
  else if places < digits.length then
    digits.take (digits.length - places) ++ ['.']
      ++ digits.drop (digits.length - places)
  else
    ['0', '.'] ++ List.replicate (places - digits.length) '0' ++ digits

/-- One digit, the others after a point, and a power of ten. -/
def scientific (decimal : Decimal) (leading : Int) : List Char :=
  let digits := decimalDigits decimal.digits
  let rest := digits.drop 1
  digits.take 1 ++ (if rest.isEmpty then [] else '.' :: rest)
    ++ 'e' :: (if leading < 0 then ['-'] else [])
    ++ decimalDigits leading.natAbs

/-- The text of a decimal. -/
def decimalText (layout : NumberLayout) (decimal : Decimal) : String :=
  let leading : Int :=
    decimal.exponent + (decimalDigits decimal.digits).length - 1
  let isPositional :=
    match layout.positional? with
    | none => true
    | some (least, greatest) => least ≤ leading && leading ≤ greatest
  String.ofList <|
    (if decimal.negative then ['-'] else []) ++
      if isPositional then layout.positional decimal
      else scientific decimal leading

/-- The text of a number, given as a sign and a magnitude. -/
def text
    (layout : NumberLayout)
    (format : BinaryFormat)
    (negative : Bool) :
    Magnitude → String
  | .finite significand exponent =>
      layout.decimalText
        (shortestDecimal format layout.tie negative significand exponent)
  | .infinite => (if negative then "-" else "") ++ layout.infinity
  | .notANumber => layout.notANumber

end NumberLayout

/-- The text of a number of 32 bits. -/
def Single.text (layout : NumberLayout) (number : Single) : String :=
  layout.text .single number.isNegative number.magnitude

/-- The text of a number of 64 bits. -/
def Double.text (layout : NumberLayout) (number : Double) : String :=
  layout.text .double number.isNegative number.magnitude

end SyntheticTable
