namespace PluginHost.Nearest

/-- The quotient rounded to the nearest whole number, a half to the even neighbour. -/
def roundedDiv (num den : Nat) : Nat :=
  let down := num / den
  let twiceOver := 2 * (num % den)
  if den < twiceOver ∨ (twiceOver = den ∧ down % 2 = 1) then down + 1 else down

/-- A fraction divided by a power of two. -/
def scaled (num den : Nat) (power : Int) : Nat × Nat :=
  (num <<< (-power).toNat, den <<< power.toNat)

/-- The greatest power of two whose value is at most the fraction, as an exponent. -/
def magnitude (num den : Nat) : Int :=
  let guess : Int := (num.log2 : Int) - den.log2
  let (num, den) := scaled num den guess
  if den ≤ num then guess else guess - 1

/-- The exponent of the unit in the last place; it is the same for all of the smallest numbers. -/
def unit (num den : Nat) : Int := max (magnitude num den - 52) (-1074)

/-- The bits of infinity. -/
def infinityBits : Nat := 0x7FF <<< 52

/--
The bits of the nearest number. Every step of the exponent is worth as much as `2 ^ 52` units, so a
carry out of the significand moves on to the next exponent by itself.
-/
def bits (num den : Nat) : Nat :=
  if num = 0 then 0
  else
    let power := unit num den
    let (num, den) := scaled num den power
    min infinityBits ((power + 1074).toNat <<< 52 + roundedDiv num den)

/-- The number nearest to a fraction. -/
def float (num den : Nat) : Float := Float.ofBits (UInt64.ofNat (bits num den))

end PluginHost.Nearest
