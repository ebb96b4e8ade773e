import Phrasebook.Command.Files

/-! A directory as a value: the files in it by their names, and the way that a path leads through
it.
-/

namespace Phrasebook.Command

open Phrasebook.Text

/-- What is stored under a path: bytes, which may be a text. -/
inductive Stored where
  | text (content : String)
  | binary
  deriving DecidableEq

/-- Files by the names that lead to them from the current directory. Every beginning of the names
leads to a directory.
-/
abbrev FileTree :=
  List (List String × Stored)

namespace FileTree

/-- Whether the names lead to a directory. -/
def isDirectory (tree : FileTree) (names : List String) : Bool :=
  names.isEmpty
    || tree.any fun (path, _) => names.isPrefixOf path && names.length < path.length

/-- Follows the names from a place. Only a directory can be left for another place. -/
def walk (tree : FileTree) : List String → List String → Except ReadFailure (List String)
  | here, [] => .ok here
  | here, name :: rest =>
      if tree.isDirectory here then
        if name = "" || name = "." then walk tree here rest
        else if name = ".." then walk tree here.dropLast rest
        else walk tree (here ++ [name]) rest
      else if (tree.lookup here).isSome then .error .notDirectory
      else .error .notFound

/-- The text that the path leads to. -/
def files (tree : FileTree) : Files := fun path =>
  if path = "" || isAbsolute path then .error .notFound
  else
    match walk tree [] (segments '/' path) with
    | .error failure => .error failure
    | .ok here =>
        match tree.lookup here with
        | some (.text content) => .ok content
        | some .binary => .error .notUnicode
        | none => if tree.isDirectory here then .error .isDirectory else .error .notFound

end FileTree

end Phrasebook.Command
