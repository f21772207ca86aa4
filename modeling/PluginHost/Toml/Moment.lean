import PluginHost.Toml.Value

namespace PluginHost.Toml

/-- A number with leading zeros up to a width. -/
def padded (width n : Nat) : String :=
  let digits := Nat.toDigits 10 n
  String.ofList (List.replicate (width - digits.length) '0' ++ digits)

def Date.text (d : Date) : String := padded 4 d.year ++ "-" ++ padded 2 d.month ++ "-" ++ padded 2 d.day

/-- A fraction of a second is written without trailing zeros, and not at all when it is zero. -/
def Time.text (t : Time) : String :=
  let whole := padded 2 t.hour ++ ":" ++ padded 2 t.minute ++ ":" ++ padded 2 t.second
  if t.nanosecond = 0 then whole
  else
    let digits := (padded 9 t.nanosecond).toList.reverse.dropWhile (· = '0')
    whole ++ "." ++ String.ofList digits.reverse

def Offset.text : Offset → String
  | utc => "Z"
  | east minutes =>
    let sign := if minutes < 0 then "-" else "+"
    let distance := minutes.natAbs
    sign ++ padded 2 (distance / 60) ++ ":" ++ padded 2 (distance % 60)

def Moment.text : Moment → String
  | date d => d.text
  | time t => t.text
  | dateTime d t => d.text ++ "T" ++ t.text
  | offsetDateTime d t o => d.text ++ "T" ++ t.text ++ o.text

/-- Days of a month in the Gregorian calendar. -/
def daysInMonth (year month : Nat) : Nat :=
  if month = 2 then
    if year % 4 = 0 ∧ (year % 100 ≠ 0 ∨ year % 400 = 0) then 29 else 28
  else if month = 4 ∨ month = 6 ∨ month = 9 ∨ month = 11 then 30
  else 31

/-- The value of a run of decimal digits. -/
def decimal (digits : List Char) : Nat :=
  digits.foldl (fun n c => 10 * n + (c.toNat - '0'.toNat)) 0

/-- Ten to a power. -/
def powerOfTen (n : Nat) : Nat := Nat.pow 10 n

/-- A number of exactly so many digits. -/
def readDigits (width : Nat) (cs : List Char) : Option (Nat × List Char) :=
  let digits := cs.take width
  if digits.length = width ∧ digits.all Char.isDigit then some (decimal digits, cs.drop width)
  else none

/-- A number of exactly so many digits within bounds. -/
def readBounded (width lo hi : Nat) (cs : List Char) : Option (Nat × List Char) := do
  let (n, cs) ← readDigits width cs
  if lo ≤ n ∧ n ≤ hi then some (n, cs) else none

/-- One given character. -/
def readChar (c : Char) : List Char → Option (List Char)
  | [] => none
  | d :: cs => if d = c then some cs else none

def readDate (cs : List Char) : Option (Date × List Char) := do
  let (year, cs) ← readDigits 4 cs
  let cs ← readChar '-' cs
  let (month, cs) ← readBounded 2 1 12 cs
  let cs ← readChar '-' cs
  let (day, cs) ← readBounded 2 1 (daysInMonth year month) cs
  some (⟨year, month, day⟩, cs)

/-- Nanoseconds after a point, digits past the ninth cut off; zero where there is no point. -/
def readFraction : List Char → Option (Nat × List Char)
  | '.' :: cs =>
    let digits := cs.takeWhile Char.isDigit
    if digits.isEmpty then none
    else
      let kept := digits.take 9
      some (decimal kept * powerOfTen (9 - kept.length), cs.dropWhile Char.isDigit)
  | cs => some (0, cs)

/-- A time of day. Minutes may have a sixtieth second. -/
def readTime (cs : List Char) : Option (Time × List Char) := do
  let (hour, cs) ← readBounded 2 0 23 cs
  let cs ← readChar ':' cs
  let (minute, cs) ← readBounded 2 0 59 cs
  let cs ← readChar ':' cs
  let (second, cs) ← readBounded 2 0 60 cs
  let (nanosecond, cs) ← readFraction cs
  some (⟨hour, minute, second, nanosecond⟩, cs)

def readOffset : List Char → Option (Offset × List Char)
  | [] => none
  | c :: cs =>
    if c = 'Z' ∨ c = 'z' then some (.utc, cs)
    else if c = '+' ∨ c = '-' then do
      let (hours, cs) ← readBounded 2 0 23 cs
      let cs ← readChar ':' cs
      let (minutes, cs) ← readBounded 2 0 59 cs
      let distance : Int := hours * 60 + minutes
      some (.east (if c = '-' then -distance else distance), cs)
    else none

/-- What separates a date from a time. -/
def isDateDelimiter (c : Char) : Bool := c = 'T' || c = 't' || c = ' '

/-- A date, a time, or both. A blank after a date belongs to it only where a time follows. -/
def readMoment (cs : List Char) : Option (Moment × List Char) :=
  match readDate cs with
  | none => (readTime cs).map fun (t, rest) => (.time t, rest)
  | some (d, rest) =>
    match rest with
    | [] => some (.date d, rest)
    | c :: after =>
      if isDateDelimiter c then
        match readTime after with
        | none => some (.date d, rest)
        | some (t, rest) =>
          match readOffset rest with
          | none => some (.dateTime d t, rest)
          | some (o, rest) => some (.offsetDateTime d t o, rest)
      else some (.date d, rest)

/-- A moment that makes up a whole text. -/
def Moment.ofText? (text : String) : Option Moment :=
  match readMoment text.toList with
  | some (m, []) => some m
  | _ => none

end PluginHost.Toml
