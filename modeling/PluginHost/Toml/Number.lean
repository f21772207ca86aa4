import PluginHost.Number.Nearest
import PluginHost.Toml.Text

namespace PluginHost.Toml

/-- Further digits of a number, each with an underscore before it or without. -/
def moreDigits (isDigit : Char → Bool) : List Char → List Char × List Char
  | [] => ([], [])
  | '_' :: d :: rest =>
    if isDigit d then
      let (digits, rest) := moreDigits isDigit rest
      (d :: digits, rest)
    else ([], '_' :: d :: rest)
  | d :: rest =>
    if isDigit d then
      let (digits, rest) := moreDigits isDigit rest
      (d :: digits, rest)
    else ([], d :: rest)

/-- One digit or more. -/
def readDigitRun (isDigit : Char → Bool) : Reader (List Char)
  | [] => none
  | d :: rest =>
    if isDigit d then
      let (digits, rest) := moreDigits isDigit rest
      some (d :: digits, rest)
    else none

/-- Whether a minus sign leads, and the text after the sign. -/
def readSign : List Char → Bool × List Char
  | '-' :: cs => (true, cs)
  | '+' :: cs => (false, cs)
  | cs => (false, cs)

/-- Decimal digits without a leading zero. -/
def readWhole : Reader (List Char)
  | '0' :: cs => some (['0'], cs)
  | cs => readDigitRun Char.isDigit cs

/-- An integer that fits into 64 bits with a sign. -/
def int64? (n : Int) : Option Int64 :=
  if Int64.minValue.toInt ≤ n ∧ n ≤ Int64.maxValue.toInt then some (Int64.ofInt n) else none

/-- A decimal integer with an optional sign, or a prefixed one without. -/
def readInteger (cs : List Char) : Option (Int64 × List Char) :=
  let inRadix (base : Nat) (isDigit : Char → Bool) (cs : List Char) := do
    let (digits, rest) ← readDigitRun isDigit cs
    (int64? (Text.inBase base digits)).map (·, rest)
  match cs with
  | '0' :: 'x' :: cs => inRadix 16 (fun c => (Text.hexValue? c).isSome) cs
  | '0' :: 'o' :: cs => inRadix 8 (fun c => '0' ≤ c && c ≤ '7') cs
  | '0' :: 'b' :: cs => inRadix 2 (fun c => c = '0' || c = '1') cs
  | cs => do
    let (negative, cs) := readSign cs
    let (digits, rest) ← readWhole cs
    let n : Int := decimal digits
    (int64? (if negative then -n else n)).map (·, rest)

/--
The floating-point number nearest to `digits` times ten to the `exponent`. Numbers beyond either end
of the range are told by their order of magnitude alone.
-/
def floatOfDecimal (digits : List Char) (exponent : Int) : Float :=
  let significant := digits.dropWhile (· = '0')
  let magnitude : Int := significant.length + exponent
  if significant.isEmpty then 0.0
  else if 400 < magnitude then 1.0 / 0.0
  else if magnitude < -400 then 0.0
  else Nearest.float (decimal significant * powerOfTen exponent.toNat) (powerOfTen (-exponent).toNat)

/-- Digits after a decimal point; none where no point follows. -/
def readFractionDigits : List Char → Option (List Char × List Char)
  | '.' :: cs => readDigitRun Char.isDigit cs
  | cs => some ([], cs)

/-- An exponent, or `none` where no exponent follows. -/
def readExponent : List Char → Option (Option Int × List Char)
  | [] => some (none, [])
  | c :: cs =>
    if c = 'e' ∨ c = 'E' then do
      let (negative, cs) := readSign cs
      let (digits, rest) ← readDigitRun Char.isDigit cs
      let n : Int := decimal digits
      some (some (if negative then -n else n), rest)
    else some (none, c :: cs)

/--
A floating-point number with a point or an exponent. It may not be so large that it rounds to
positive infinity.
-/
def readFinite (cs : List Char) : Option (Float × List Char) := do
  let (negative, cs) := readSign cs
  let (whole, cs) ← readWhole cs
  let (fraction, cs) ← readFractionDigits cs
  let (exponent, cs) ← readExponent cs
  guard (¬fraction.isEmpty ∨ exponent.isSome)
  let size := floatOfDecimal (whole ++ fraction) (exponent.getD 0 - fraction.length)
  if negative then some (-size, cs)
  else if size.isInf then none
  else some (size, cs)

/-- An infinity or a value that is no number. -/
def readSpecial (cs : List Char) : Option (Float × List Char) :=
  match readSign cs with
  | (negative, 'i' :: 'n' :: 'f' :: rest) => some (if negative then -1.0 / 0.0 else 1.0 / 0.0, rest)
  | (_, 'n' :: 'a' :: 'n' :: rest) => some (0.0 / 0.0, rest)
  | _ => none

end PluginHost.Toml
