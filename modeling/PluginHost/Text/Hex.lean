namespace PluginHost.Text

/-- The value of a hexadecimal digit in either case. -/
def hexValue? (c : Char) : Option Nat :=
  if '0' ≤ c ∧ c ≤ '9' then some (c.toNat - '0'.toNat)
  else if 'a' ≤ c ∧ c ≤ 'f' then some (c.toNat - 'a'.toNat + 10)
  else if 'A' ≤ c ∧ c ≤ 'F' then some (c.toNat - 'A'.toNat + 10)
  else none

/-- Digits of a base, most significant first. What is no digit counts as zero. -/
def inBase (base : Nat) (digits : List Char) : Nat :=
  digits.foldl (fun n c => base * n + (hexValue? c).getD 0) 0

/-- The last digits of a number, most significant first. -/
def fixedHex (n : Nat) : Nat → List Char
  | 0 => []
  | count + 1 => fixedHex (n / 16) count ++ [Nat.digitChar (n % 16)]

/-- Bytes from pairs of digits. -/
def hexBytes : List Char → List UInt8
  | a :: b :: rest => UInt8.ofNat (inBase 16 [a, b]) :: hexBytes rest
  | _ => []

/-- The bits of a number in sixteen digits. All that is not a number is alike. -/
def floatBits (x : Float) : String :=
  if x.isNaN then "nan" else String.ofList (fixedHex x.toBits.toNat 16)

/-- The number with given bits. -/
def ofFloatBits (s : String) : Float :=
  if s = "nan" then 0.0 / 0.0 else Float.ofBits (UInt64.ofNat (inBase 16 s.toList))

end PluginHost.Text
