import Phrasebook.Json.Value
import Phrasebook.Ordered

/-! Dictionaries of templates: ordered entries under segments, nested to any depth. A leaf is
named by its path, the segments from the top joined by points.
-/

namespace Phrasebook

/-- What stands under a segment: a template, the entries of a nested level, or a value that is
neither and never resolves.
-/
inductive Entry where
  | text (template : String)
  | nested (entries : List (String × Entry))
  | other (value : Json)

/-- The entries of the top level. -/
structure Dictionary where
  entries : List (String × Entry)

/-- The path of a segment below a path. The top level has the empty path, which is not written. -/
def childPath (path segment : String) : String :=
  if path = "" then segment else path ++ "." ++ segment

namespace Entry

mutual

/-- The leaves of an entry whose own path is given. -/
def leavesAt (path : String) : Entry → List (String × Entry)
  | .text template => [(path, .text template)]
  | .nested entries => leavesBelow path entries
  | .other value => [(path, .other value)]

/-- The leaves of a level, depth first, with their paths. -/
def leavesBelow (path : String) : List (String × Entry) → List (String × Entry)
  | [] => []
  | (segment, entry) :: rest =>
      leavesAt (childPath path segment) entry ++ leavesBelow path rest

end

mutual

/-- Whether the entries are equal up to the order of the members of any level. -/
def same : Entry → Entry → Bool
  | .text a, .text b => a == b
  | .nested entries, .nested others =>
      entries.length == others.length && sameEntries entries others
  | .other a, .other b => a.same b
  | _, _ => false

/-- Finds every entry among the others by its segment. -/
def sameEntries : List (String × Entry) → List (String × Entry) → Bool
  | [], _ => true
  | (segment, entry) :: entries, others =>
      (match others.lookup segment with
        | some found => same entry found
        | none => false)
        && sameEntries entries others

end

end Entry

namespace Dictionary

/-- The dictionary without entries. -/
def empty : Dictionary :=
  ⟨[]⟩

/-- Keeps for each segment its first position and its last entry. -/
def ofList (pairs : List (String × Entry)) : Dictionary :=
  ⟨Ordered.collect pairs⟩

/-- The entry under one segment of the top level. -/
def get? (d : Dictionary) (segment : String) : Option Entry :=
  d.entries.lookup segment

/-- Puts the entry under the segment, in place of the one that is there. -/
def insert (d : Dictionary) (segment : String) (entry : Entry) : Dictionary :=
  ⟨Ordered.insert segment entry d.entries⟩

/-- The dictionary whose only entry is d, under the segment. -/
def nestUnder (d : Dictionary) (segment : String) : Dictionary :=
  empty.insert segment (.nested d.entries)

/-- The dictionary in which the segments lead to d, and to nothing else. -/
def nestUnderEach (d : Dictionary) (segments : List String) : Dictionary :=
  segments.foldr (fun segment inner => inner.nestUnder segment) d

/-- Counts the entries of the top level. -/
def size (d : Dictionary) : Nat :=
  d.entries.length

/-- The entries of d that are not nested levels, depth first, with their paths. -/
def leaves (d : Dictionary) : List (String × Entry) :=
  Entry.leavesBelow "" d.entries

/-- The path of a leaf that holds a template. -/
def textKey? : String × Entry → Option String
  | (path, .text _) => some path
  | _ => none

/-- The paths of the templates of d, depth first. -/
def leafKeys (d : Dictionary) : List String :=
  d.leaves.filterMap textKey?

/-- Whether the dictionaries are equal up to the order of members at any depth. -/
def same (d e : Dictionary) : Bool :=
  (Entry.nested d.entries).same (.nested e.entries)

end Dictionary

end Phrasebook
