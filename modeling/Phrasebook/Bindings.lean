import Phrasebook.Json.Reader
import Phrasebook.Json.Writer
import Phrasebook.Value

/-! Named values for placeholders, in the order in which they apply, and the arguments that stand
for them.
-/

namespace Phrasebook

/-- Values bound to names, each name once. -/
structure Bindings where
  entries : List (String × Value)
  distinct : Ordered.Distinct entries

namespace Bindings

/-- The bindings of no name. -/
def empty : Bindings :=
  ⟨[], by simp [Ordered.Distinct]⟩

/-- Keeps for each name its first position and its last value. -/
def ofList (pairs : List (String × Value)) : Bindings :=
  ⟨Ordered.collect pairs, Ordered.distinct_collect pairs⟩

/-- Bindings are what their own entries are collected into. -/
theorem ofList_entries (b : Bindings) : ofList b.entries = b := by
  cases b with
  | mk entries distinct => simp only [ofList, Ordered.collect_eq_self distinct]

/-- The value bound to the name. -/
def get? (b : Bindings) (name : String) : Option Value :=
  b.entries.lookup name

/-- Binds the name to the value; a bound name keeps its position. -/
def insert (b : Bindings) (name : String) (value : Value) : Bindings :=
  ⟨Ordered.insert name value b.entries, b.distinct.insert name value⟩

/-- Lays the other bindings on top of b: their values win, and their new names come last. -/
def merge (b other : Bindings) : Bindings :=
  ⟨Ordered.insertAll b.entries other.entries, b.distinct.insertAll other.entries⟩

/-- Counts the bound names. -/
def size (b : Bindings) : Nat :=
  b.entries.length

/-- Binds the names count and value to the count n. -/
def ofCount (n : Int64) : Bindings :=
  ofList [("count", .number n), ("value", .number n)]

/-- Whether the same names are bound to the same values, in any order. -/
def same (b other : Bindings) : Bool :=
  b.size == other.size
    && b.entries.all fun (name, value) =>
      match other.get? name with
      | some found => value.same found
      | none => false

/-- The object that stands for b. -/
def toJson (b : Bindings) : Json :=
  .object (b.entries.map fun (name, value) => (name, value.toJson))

/-- Reads the value of a member and keeps its name. -/
def member? (read : Json → Option Value) : String × Json → Option (String × Value)
  | (name, value) => (read value).map fun value => (name, value)

/-- The bindings that the members of an object stand for, if all of them are numbers and strings. -/
def ofMembers? (members : List (String × Json)) : Option Bindings :=
  (members.mapM (member? Value.ofJson?)).map ofList

/-- Reads bindings from a text, which must be a JSON object of numbers and strings. -/
def parse (text : String) : Except Json.SyntaxError Bindings :=
  (Json.parseObject (fun value => (Value.ofJson? value).isSome) text).map fun members =>
    (ofMembers? members).getD empty

end Bindings

/-- What a caller gives to replace placeholders: bindings, a count or a text that stand for some, or
nothing.
-/
inductive Argument where
  | bindings (b : Bindings)
  | count (n : Int64)
  | text (s : String)
  | none

namespace Argument

/-- The count n, or the greatest one of 64 bits if n is beyond it. -/
def ofNat (n : Nat) : Argument :=
  .count (Text.saturate n)

/-- The bindings that the argument stands for: a count is bound to the names count and value, and a
text to the names value and name.
-/
def normalize : Argument → Option Bindings
  | .bindings b => some b
  | .count n => some (.ofCount n)
  | .text s => some (.ofList [("value", .text s), ("name", .text s)])
  | .none => Option.none

/-- The value of a number, a string or a truth value, which becomes a word. -/
def memberValue? : Json → Option Value
  | .number n => some (Value.ofNumber n)
  | .string s => some (.text s)
  | .bool b => some (.text (String.ofList (Json.writeBool b)))
  | .null => .none
  | .array _ => .none
  | .object _ => .none

/-- Reads any JSON value as an argument. Integers of 64 bits are counts and strings are texts; other
numbers are bound to the names count and value. Of an object the scalar members are bound, and
everything else is nothing.
-/
def ofJson : Json → Argument
  | .number n =>
      match Value.ofNumber n with
      | .number n => .count n
      | value => .bindings (.ofList [("count", value), ("value", value)])
  | .string s => .text s
  | .object members =>
      .bindings (.ofList (members.filterMap (Bindings.member? memberValue?)))
  | .null => .none
  | .bool _ => .none
  | .array _ => .none

end Argument

end Phrasebook
