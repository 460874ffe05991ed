import DocIndex.Decimal.Shortest

/-! # Doubles as text

A double is shown by its shortest decimal. Numbers of moderate size are written positionally,
always with a point; the others with an exponent of two digits or more.
-/

namespace DocIndex.Decimal

/-- The words of a format for the values that have no digits, and the range of magnitudes that
are written positionally. -/
structure Style where
  infinity : String
  notNumber : String
  least : Int := -3
  greatest : Int := 16

def messageStyle : Style where
  infinity := "inf"
  notNumber := "nan"

/-- How numbers are written in settings files. -/
def fileStyle : Style where
  infinity := "Infinity"
  notNumber := "NaN"

def zeros (n : Nat) : List Char := List.replicate n '0'

/-- The decimal `0.digits · 10^point` written out. -/
def layout (style : Style) (digits : List Char) (point : Int) : List Char :=
  if style.least ≤ point ∧ point ≤ style.greatest then
    if point ≤ 0 then '0' :: '.' :: zeros (-point).toNat ++ digits
    else if (digits.length : Int) ≤ point then
      digits ++ zeros (point.toNat - digits.length) ++ ['.', '0']
    else digits.take point.toNat ++ '.' :: digits.drop point.toNat
  else
    let exponent := point - 1
    let places := Nat.toDigits 10 exponent.natAbs
    digits.take 1 ++ (if digits.length ≤ 1 then [] else '.' :: digits.drop 1) ++
      ['e', if exponent < 0 then '-' else '+'] ++ zeros (2 - places.length) ++ places

/-- The digits of a positive number without the zeros at its end. -/
def significant (n : Nat) : List Char :=
  ((Nat.toDigits 10 n).reverse.dropWhile (· == '0')).reverse

/-- The double with these bits as text. -/
def displayBits (style : Style) (bits : UInt64) : String :=
  let sign := if bits >>> 63 = 1 then ['-'] else []
  let magnitude := bits &&& 0x7fffffffffffffff
  if 0x7ff0000000000000 < magnitude then style.notNumber
  else if magnitude = 0x7ff0000000000000 then String.ofList (sign ++ style.infinity.toList)
  else if magnitude = 0 then String.ofList (sign ++ ['0', '.', '0'])
  else
    let (n, k) := shortest (Binary.ofBits magnitude)
    let point := k + ((Nat.toDigits 10 n).length : Int)
    String.ofList (sign ++ layout style (significant n) point)

def display (style : Style) (x : Float) : String := displayBits style x.toBits

end DocIndex.Decimal
