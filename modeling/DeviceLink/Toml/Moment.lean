import DeviceLink.Toml.Number

/-!
# Dates and times

A moment is a date, a time of day, or a date with a time of day and an
optional offset. Only its form and its ranges matter here.
-/

namespace DeviceLink.Toml

/-- Number of days of a month. -/
def daysIn (year month : Nat) : Nat :=
  let leap := year % 4 = 0 && (year % 100 ≠ 0 || year % 400 = 0)
  if month = 2 then (if leap then 29 else 28)
  else if [4, 6, 9, 11].contains month then 30
  else 31

namespace Scanner

/-- Take a number with exactly so many digits. -/
def padded (digits : Nat) : Scanner Nat := do
  let shown ← exactly Char.isDigit digits
  pure (wholeOf 10 shown)

/-- Take a two-digit number in a range. -/
def between (least greatest : Nat) : Scanner Nat := do
  let value ← padded 2
  if least ≤ value && value ≤ greatest then pure value else refuse

/-- Take a date. -/
def date : Scanner Unit := do
  let year ← padded 4
  char '-'
  let month ← between 1 12
  char '-'
  let _ ← between 1 (daysIn year month)

/-- Take a time of day. -/
def timeOfDay : Scanner Unit := do
  let _ ← between 0 23
  char ':'
  let _ ← between 0 59
  char ':'
  let _ ← between 0 60
  let _ ← perhaps do
    char '.'
    manyOne (one Char.isDigit)

/-- Take an offset. -/
def offset : Scanner Unit := do
  let first ← one fun c => ['Z', 'z', '+', '-'].contains c
  if first = 'Z' || first = 'z' then pure ()
  else
    let _ ← between 0 23
    char ':'
    let _ ← between 0 59

/-- Take a moment. -/
def moment : Scanner Unit :=
  (do
    date
    let _ ← perhaps do
      let _ ← one fun c => ['T', 't', ' '].contains c
      timeOfDay
      let _ ← perhaps offset)
  <|> timeOfDay

end Scanner

end DeviceLink.Toml
