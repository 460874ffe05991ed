/-! # Shortest decimals

A finite double is `m · 2^q`. The reals that round to it form an interval, which holds its ends
exactly if `m` is even. Among the decimals in the interval those with the fewest digits are
sought, and of these the nearest to the double; of two equally near ones the even one.
-/

namespace DocIndex.Decimal

/-- A positive double as `mantissa · 2^exponent`. At the least mantissa of its binade the next
double below is only half as far as the one above. -/
structure Binary where
  mantissa : Nat
  exponent : Int
  atEdge : Bool

/-- The parts of the double with these bits, sign apart. The bits must not be those of infinity
or of a number that is none. -/
def Binary.ofBits (bits : UInt64) : Binary :=
  let fraction := (bits &&& 0xfffffffffffff).toNat
  let biased := ((bits >>> 52) &&& 0x7ff).toNat
  if biased = 0 then ⟨fraction, -1074, false⟩
  else ⟨0x10000000000000 + fraction, (biased : Int) - 1075, fraction == 0 && decide (1 < biased)⟩

/-- How many places after the point `num / den` begins, for a positive fraction below one:
the least `k` with `den ≤ num · 10^k`, sought among `fuel` numbers from `k` on. -/
def firstPlace (num den : Nat) : Nat → Nat → Nat
  | 0, k => k
  | fuel + 1, k => if den ≤ num * Nat.pow 10 k then k else firstPlace num den fuel (k + 1)

/-- The position of the leading digit of `num / den`: the least `e` with `num / den < 10^e`. -/
def magnitude (num den : Nat) : Int :=
  if den ≤ num then (Nat.toDigits 10 (num / den)).length
  else 1 - (firstPlace num den 400 1 : Int)

/-- The decimal of `places` digits, in units of `10^k`, that lies in the interval from `low` to
`high` around `value` and is nearest to `value`, if one does. All are multiples of `1 / unit`. -/
def onGrid? (inclusive : Bool) (low value high unit : Nat) : Option Nat :=
  let inside (c : Nat) : Bool :=
    if inclusive then decide (low ≤ c * unit) && decide (c * unit ≤ high)
    else decide (low < c * unit) && decide (c * unit < high)
  let down := value / unit
  let rest := value % unit
  match inside down, inside (down + 1) with
  | true, true =>
    if 2 * rest < unit then some down
    else if unit < 2 * rest then some (down + 1)
    else some (if down % 2 = 0 then down else down + 1)
  | true, false => some down
  | false, true => some (down + 1)
  | false, false => none

/-- The first decimal found on the grids of `digits`, `digits + 1`, … digits, `fuel` of them. -/
def search (x : Binary) (fuel digits : Nat) : Nat × Int :=
  let up := Nat.pow 2 (x.exponent - 2).toNat
  let den := Nat.pow 2 (2 - x.exponent).toNat
  let value := 4 * x.mantissa * up
  let low := (4 * x.mantissa - if x.atEdge then 1 else 2) * up
  let high := (4 * x.mantissa + 2) * up
  let k := magnitude value den - digits
  let scale := Nat.pow 10 (-k).toNat
  let unit := den * Nat.pow 10 k.toNat
  match onGrid? (x.mantissa % 2 == 0) (low * scale) (value * scale) (high * scale) unit with
  | some c => (c, k)
  | none =>
    match fuel with
    | 0 => (value * scale / unit, k)
    | fuel + 1 => search x fuel (digits + 1)

/-- The shortest decimal of a positive double: digits and a power of ten. -/
def shortest (x : Binary) : Nat × Int := search x 16 1

end DocIndex.Decimal
