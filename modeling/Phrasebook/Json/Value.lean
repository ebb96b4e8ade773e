/-! JSON values. Numbers written as integers are kept apart from floating-point numbers, and
objects keep the order of their members.
-/

namespace Phrasebook

/-- A number of a JSON text. -/
inductive Number where
  | integer (n : Int)
  | float (x : Float)

/-- A JSON value. -/
inductive Json where
  | null
  | bool (b : Bool)
  | number (n : Number)
  | string (s : String)
  | array (items : List Json)
  | object (members : List (String × Json))

namespace Number

/-- The floating-point number nearest to n. -/
def toFloat : Number → Float
  | .integer n => Float.ofInt n
  | .float x => x

/-- Compares numbers of one kind; an integer and a floating-point number are never the same. -/
def same : Number → Number → Bool
  | .integer m, .integer n => m == n
  | .float x, .float y => x == y
  | _, _ => false

end Number

namespace Json

mutual

/-- Whether the values are equal up to the order of members in objects, at any depth. -/
def same : Json → Json → Bool
  | .null, .null => true
  | .bool a, .bool b => a == b
  | .number m, .number n => m.same n
  | .string s, .string t => s == t
  | .array items, .array others => sameItems items others
  | .object members, .object others =>
      members.length == others.length && sameMembers members others
  | _, _ => false

/-- Compares arrays position by position. -/
def sameItems : List Json → List Json → Bool
  | [], [] => true
  | item :: items, other :: others => same item other && sameItems items others
  | _, _ => false

/-- Finds every member among the others by its name. -/
def sameMembers : List (String × Json) → List (String × Json) → Bool
  | [], _ => true
  | (name, value) :: members, others =>
      (match others.lookup name with
        | some found => same value found
        | none => false)
        && sameMembers members others

end

end Json

end Phrasebook
