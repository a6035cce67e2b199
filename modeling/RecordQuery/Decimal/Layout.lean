import RecordQuery.Decimal.Shortest

/-!
# Layout of decimals

A decimal is written out in positional notation while the power of ten of its first
digit lies between two bounds, and with an exponent outside them. The bounds belong
to the format that writes the number and are a value of `RecordQuery.Decimal.Layout`.
-/

namespace RecordQuery.Decimal

/-- Which decimals are written without an exponent: those whose first digit stands
for a power of ten between the two bounds. -/
structure Layout where
  /-- The least power written positionally. -/
  least : Int
  /-- The greatest power written positionally. -/
  greatest : Int

namespace Layout

/-- The digits of a natural number. -/
def digitsOf (value : Nat) : List Char :=
  Nat.toDigits 10 value

/-- A run of zeros. -/
def zeros (count : Nat) : List Char :=
  List.replicate count '0'

/-- Positional text, with at least one digit on each side of the point. -/
def positional (digits : List Char) (exponent : Int) : List Char :=
  if 0 ≤ exponent then digits ++ zeros exponent.toNat ++ ['.', '0']
  else
    let places := (-exponent).toNat
    if places < digits.length then
      digits.take (digits.length - places) ++ '.' :: digits.drop (digits.length - places)
    else ['0', '.'] ++ zeros (places - digits.length) ++ digits

/-- Text with an exponent: one digit before the point, and the sign of the exponent
always written. -/
def scientific (digits : List Char) (power : Int) : List Char :=
  let mantissa := match digits with
    | first :: second :: rest => first :: '.' :: second :: rest
    | short => short
  mantissa ++ ['e', if power < 0 then '-' else '+'] ++ digitsOf power.natAbs

/-- The text of the magnitude of a decimal. -/
def magnitude (layout : Layout) (d : Scaled) : List Char :=
  if d.digits = 0 then ['0', '.', '0']
  else
    let digits := digitsOf d.digits
    let power := d.exponent + (digits.length : Int) - 1
    if layout.least ≤ power && power ≤ layout.greatest then positional digits d.exponent
    else scientific digits power

/-- The text of a double: its shortest decimal behind its sign. -/
def text (layout : Layout) (x : Double) : String :=
  String.ofList ((if x.negative then ['-'] else []) ++ layout.magnitude x.shortest)

end Layout

/-- The text of an integer, a minus sign only in front of negative ones. -/
def intText (value : Int) : String :=
  String.ofList ((if value < 0 then ['-'] else []) ++ Layout.digitsOf value.natAbs)

end RecordQuery.Decimal
