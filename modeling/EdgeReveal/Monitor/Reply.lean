import EdgeReveal.Json.Reader
import EdgeReveal.Monitor.Basic

/-!
# Monitor replies

The compositor lists its monitors as a JSON array. An entry is an object with
the known keys in any order, or an array of the same fields in their declared
order. One bad entry rejects the whole reply.
-/
namespace EdgeReveal.Monitor

open Json (Value Numeral Characters)

def int32? : Value → Option Int32
  | .number n =>
    match n.integer? with
    | some i =>
      if Int32.minValue.toInt ≤ i ∧ i ≤ Int32.maxValue.toInt then some (.ofInt i) else none
    | none => none
  | _ => none

def byte? : Value → Option UInt8
  | .number n =>
    match n.integer? with
    | some i => if 0 ≤ i ∧ i < 256 then some (.ofNat i.toNat) else none
    | none => none
  | _ => none

def float? : Value → Option Float
  | .number n => n.toFloat?
  | _ => none

def boolean? : Value → Option Bool
  | .boolean b => some b
  | _ => none

def text? : Value → Option String
  | .text chars => chars
  | _ => none

/-- A key that is left out takes the default; a value of the wrong type is never replaced. -/
def withDefault {α : Type} (read : Value → Option α) (default : α) : Option Value → Option α
  | none => some default
  | some value => read value

/-- Builds a monitor from the values of its fields. -/
def ofFields? (name x y width height : Value) (scale transform focused disabled : Option Value) :
    Option Monitor := do
  return {
    name := ← text? name
    x := ← int32? x
    y := ← int32? y
    width := ← int32? width
    height := ← int32? height
    scale := ← withDefault float? 1.0 scale
    transform := ← withDefault byte? 0 transform
    focused := ← withDefault boolean? false focused
    disabled := ← withDefault boolean? false disabled }

def keys : List String :=
  ["name", "x", "y", "width", "height", "scale", "transform", "focused", "disabled"]

/-- Every key must be readable, and a known one may stand only once. -/
def keysAgree (members : List (Characters × Value)) : Bool :=
  members.all (·.1.isSome) && keys.all fun key => members.countP (·.1 == some key) ≤ 1

def member? (members : List (Characters × Value)) (key : String) : Option Value :=
  (members.find? (·.1 == some key)).map (·.2)

def ofMembers? (members : List (Characters × Value)) : Option Monitor :=
  if keysAgree members then do
    let get := member? members
    ofFields? (← get "name") (← get "x") (← get "y") (← get "width") (← get "height")
      (get "scale") (get "transform") (get "focused") (get "disabled")
  else none

def ofItems? : List Value → Option Monitor
  | name :: x :: y :: width :: height :: others =>
    if others.length ≤ 4 then
      ofFields? name x y width height others[0]? others[1]? others[2]? others[3]?
    else none
  | _ => none

def ofValue? : Value → Option Monitor
  | .object members => ofMembers? members
  | .array items => ofItems? items
  | _ => none

def ofReply? (reply : String) : Option (List Monitor) :=
  match Json.parse? reply with
  | some (.array entries) => entries.mapM ofValue?
  | _ => none

end EdgeReveal.Monitor
