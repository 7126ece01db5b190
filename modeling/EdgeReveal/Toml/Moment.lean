import EdgeReveal.Text.Decimal

/-!
# Dates and times

A date, a time, or a date and a time, the last with an optional offset. Fields
have a fixed width and stay in the calendar; seconds may be left out.
-/
namespace EdgeReveal.Toml.Moment

/-- Reads exactly `width` digits with a value between two bounds. -/
def field? (width low high : Nat) (text : List Char) : Option (Nat × List Char) :=
  let digits := text.take width
  let value := Text.digitsValue digits
  if digits.length = width ∧ digits.all Text.isDigit ∧ low ≤ value ∧ value ≤ high then
    some (value, text.drop width)
  else none

def mark? (c : Char) : List Char → Option (List Char)
  | d :: rest => if d = c then some rest else none
  | [] => none

def isLeap (year : Nat) : Bool := (year % 4 == 0 && year % 100 != 0) || year % 400 == 0

def daysIn (year month : Nat) : Nat :=
  if month = 2 then if isLeap year then 29 else 28
  else if month = 4 ∨ month = 6 ∨ month = 9 ∨ month = 11 then 30
  else 31

/-- Reads a date and returns what follows it. -/
def date? (text : List Char) : Option (List Char) := do
  let (year, rest) ← field? 4 0 9999 text
  let (month, rest) ← field? 2 1 12 (← mark? '-' rest)
  let (_, rest) ← field? 2 1 (daysIn year month) (← mark? '-' rest)
  return rest

def fraction? : List Char → Option (List Char)
  | '.' :: c :: rest => if Text.isDigit c then some (rest.dropWhile Text.isDigit) else none
  | '.' :: [] => none
  | rest => some rest

/-- Reads a time and returns what follows it; a leap second is allowed at any minute. -/
def time? (text : List Char) : Option (List Char) := do
  let (_, rest) ← field? 2 0 23 text
  let (_, rest) ← field? 2 0 59 (← mark? ':' rest)
  match rest with
  | ':' :: rest =>
    let (_, rest) ← field? 2 0 60 rest
    fraction? rest
  | rest => return rest

/-- Reads the offset of a date and time, if there is one. -/
def offset? : List Char → Option (List Char)
  | [] => some []
  | c :: rest =>
    if c = 'Z' ∨ c = 'z' then some rest
    else if c = '+' ∨ c = '-' then do
      let (_, rest) ← field? 2 0 23 rest
      let (_, rest) ← field? 2 0 59 (← mark? ':' rest)
      return rest
    else none

def separatesTime (c : Char) : Bool := c == 'T' || c == 't' || c == ' '

/-- Whether the whole text is a date, a time or both. -/
def isMoment (text : List Char) : Bool :=
  match date? text with
  | some [] => true
  | some (c :: rest) => separatesTime c && ((time? rest).bind offset?) == some []
  | none => time? text == some []

/-- Whether the whole text is a date. -/
def isDate (text : List Char) : Bool := date? text == some []

end EdgeReveal.Toml.Moment
