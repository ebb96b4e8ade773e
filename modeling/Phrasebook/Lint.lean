import Phrasebook.Dictionary.Basic
import Phrasebook.PluralForm

/-! Warnings about entries that can never be shown: segments that no key reaches, leaves that are
not text, and plural forms that no count selects.
-/

namespace Phrasebook

open Phrasebook.Text

/-- A warning about the entry at a key. -/
inductive Warning where
  | notText (key : String)
  | unreachable (key : String)
  | malformedTag (key form : String)
  | emptyRange (key form : String)
  | duplicateExact (key : String) (count : Int64)
  deriving DecidableEq

namespace Warning

/-- The path of the entry that the warning is about. -/
def key : Warning → String
  | .notText key => key
  | .unreachable key => key
  | .malformedTag key _ => key
  | .emptyRange key _ => key
  | .duplicateExact key _ => key

/-- Says what is wrong with the entry. -/
def reason : Warning → String
  | .notText _ => "value is not a string and will never resolve"
  | .unreachable _ => "segment contains '.' and is unreachable by key lookup"
  | .malformedTag _ form => "malformed plural tag in form '" ++ form ++ "'"
  | .emptyRange _ form => "range in form '" ++ form ++ "' matches no count"
  | .duplicateExact _ count =>
      "exact tag \x7b" ++ String.ofList (writeInteger count.toInt)
        ++ "\x7d is shadowed by an earlier form"

/-- Names the entry and says what is wrong with it. -/
def message (warning : Warning) : String :=
  "'" ++ warning.key ++ "': " ++ warning.reason

end Warning

/-- Whether the segment contains a point. -/
def isDotted (segment : String) : Bool :=
  segment.toList.contains '.'

mutual

/-- The warnings about the dotted segments inside an entry. -/
def Entry.dottedAt (path : String) : Entry → List Warning
  | .nested entries => dottedBelow path entries
  | .text _ => []
  | .other _ => []

/-- The warnings about the dotted segments of a level and of those below it, depth first. -/
def dottedBelow (path : String) : List (String × Entry) → List Warning
  | [] => []
  | (segment, entry) :: rest =>
      (if isDotted segment then [.unreachable (childPath path segment)] else [])
        ++ entry.dottedAt (childPath path segment) ++ dottedBelow path rest

end

/-- Whether the form starts like a tag. -/
def looksTagged (form : String) : Bool :=
  match trimStart form.toList with
  | '\x7b' :: _ => true
  | '[' :: _ => true
  | _ => false

/-- The warnings about one form after forms with the exact counts `seen`. -/
def formWarnings (key : String) (seen : List Int64) (form : String) : List Warning :=
  match (PluralForm.parse form).tag with
  | none => if looksTagged form then [.malformedTag key form] else []
  | some (.exact n) => if seen.contains n then [.duplicateExact key n] else []
  | some (.range first (some last)) => if last < first then [.emptyRange key form] else []
  | some (.range _ none) => []

/-- The number of a form whose tag is one number. -/
def exactCount? (form : String) : Option Int64 :=
  match (PluralForm.parse form).tag with
  | some (.exact n) => some n
  | _ => none

/-- The warnings about the forms of a template. -/
def lintForms (key : String) : List Int64 → List String → List Warning
  | _, [] => []
  | seen, form :: rest =>
      formWarnings key seen form ++ lintForms key ((exactCount? form).toList ++ seen) rest

/-- The warnings about a leaf at its path. -/
def lintLeaf : String × Entry → List Warning
  | (key, .text template) => lintForms key [] (PluralForm.formsOf template)
  | (key, .other _) => [.notText key]
  | (_, .nested _) => []

/-- The warnings about d: first those about dotted segments, then those about leaves, both depth
first.
-/
def Dictionary.lint (d : Dictionary) : List Warning :=
  dottedBelow "" d.entries ++ d.leaves.flatMap lintLeaf

end Phrasebook
