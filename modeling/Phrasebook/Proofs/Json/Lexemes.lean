import Phrasebook.Json.Token
import Phrasebook.Proofs.Json.Parts
import Phrasebook.Proofs.Json.Scalars

/-! The text of a value consists of the lexemes of the value. Each lexeme is read from its own
characters, whatever the text goes on with, except that a number must be followed by something that
no number goes on with; in the text of a value, that is a comma or a closing bracket.
-/

namespace Phrasebook.Json

open Phrasebook.Text

mutual

/-- The lexemes that the text of a value consists of. -/
def lexemes : Json → List Lexeme
  | .null => [.null]
  | .bool b => [.bool b]
  | .number n => [.number n]
  | .string s => [.string s]
  | .array items => .openArray :: itemLexemes items
  | .object members => .openObject :: memberLexemes members

/-- The lexemes of an array after its opening bracket. -/
def itemLexemes : List Json → List Lexeme
  | [] => [.closeArray]
  | [item] => lexemes item ++ [.closeArray]
  | item :: items => lexemes item ++ .comma :: itemLexemes items

/-- The lexemes of an object after its opening brace. -/
def memberLexemes : List (String × Json) → List Lexeme
  | [] => [.closeObject]
  | [(name, value)] => .string name :: .colon :: (lexemes value ++ [.closeObject])
  | (name, value) :: members =>
      .string name :: .colon :: (lexemes value ++ .comma :: memberLexemes members)

end

/-- Requires the tokens of the text to have these lexemes. -/
def Scans (text : List Char) (found : List Lexeme) : Prop :=
  ∀ fuel, text.length ≤ fuel → (Token.scanFrom fuel text).map Token.lexeme = found

namespace Scans

variable {rest : List Char} {found : List Lexeme}

theorem nil : Scans [] [] := by
  intro fuel _
  cases fuel <;> rfl

/-- A lexeme that is read from the first character on comes before those of the rest. -/
theorem cons (h : Scans rest found) {c : Char} {more : List Char} {lexeme : Lexeme}
    (start : Token.isSpace c = false) (read : Token.read c more = (lexeme, rest))
    (shorter : rest.length ≤ more.length)
    : Scans (c :: more) (lexeme :: found) := by
  intro fuel enough
  cases fuel with
  | zero => contradiction
  | succ fuel =>
      have within : rest.length ≤ fuel := Nat.le_trans shorter (Nat.le_of_succ_le_succ enough)
      rw [Token.scanFrom, List.dropWhile_cons_of_neg (by simp [start])]
      simp [read, h fuel within]

theorem string (h : Scans rest found) (s : String)
    : Scans (Quoted.write s ++ rest) (.string s :: found) := by
  have back := Quoted.read_flatMap_writeChar s.toList rest
  have text : Quoted.write s ++ rest =
      '"' :: (s.toList.flatMap Quoted.writeChar ++ '"' :: rest) := by
    simp [Quoted.write]
  rw [text]
  refine h.cons (by decide) ?_ (by simp; omega)
  simp [Token.read, Token.string, back]

theorem integer (h : Scans rest found) {n : Int} (exact : (Number.integer n).Exact)
    (stops : Numeral.Stops rest)
    : Scans (writeInteger n ++ rest) (.number (.integer n) :: found) := by
  have back := Numeral.read_writeInteger exact stops
  obtain ⟨c, more, eq, first⟩ := Numeral.exists_cons_writeInteger n
  rw [eq, List.cons_append] at back ⊢
  have neither : ∀ other ∈ ['"', ',', ':', '\x7b', '\x7d', '[', ']', ' ', '\n', '\t', '\r'],
      ¬(other = '-' ∨ isDigit other = true) := by
    simp [isDigit]
  have apart := fun other member (same : c = other) => neither other member (same ▸ first)
  simp only [List.forall_mem_cons, imp_false] at apart
  have read : Token.read c (more ++ rest) = Token.number (c :: (more ++ rest)) := by
    simp [Token.read, first, apart]
  refine h.cons ?_ ?_ (by simp)
  · simp [Token.isSpace, apart]
  · rw [read, Token.number, back]

end Scans

/-- Requires the text of a value to have the lexemes of the value, before a text that no number goes
on with.
-/
def Legible (value : Json) : Prop :=
  ∀ {rest found}, Scans rest found → Numeral.Stops rest →
    Scans (value.write ++ rest) (value.lexemes ++ found)

theorem scans_writeItems {items : List Json} (each : ∀ item ∈ items, item.Legible)
    {rest : List Char} {found : List Lexeme} (h : Scans rest found)
    : Scans (writeItems items ++ rest) (itemLexemes items ++ found) := by
  have close : Scans (']' :: rest) (.closeArray :: found) := h.cons rfl rfl (Nat.le_refl _)
  induction items with
  | nil => exact close
  | cons item items ih =>
      obtain ⟨here, later⟩ := List.forall_mem_cons.mp each
      cases items with
      | nil =>
          rw [writeItems, itemLexemes, List.append_assoc, List.append_assoc]
          exact here close ⟨rfl, by decide⟩
      | cons next items =>
          have comma := (ih later).cons (c := ',') rfl rfl (Nat.le_refl _)
          rw [writeItems, itemLexemes, List.append_assoc, List.append_assoc]
          · exact here comma ⟨rfl, by decide⟩
          · simp
          · simp

theorem scans_writeMembers {members : List (String × Json)}
    (each : ∀ member ∈ members, member.2.Legible) {rest : List Char} {found : List Lexeme}
    (h : Scans rest found)
    : Scans (writeMembers members ++ rest) (memberLexemes members ++ found) := by
  have close : Scans ('\x7d' :: rest) (.closeObject :: found) := h.cons rfl rfl (Nat.le_refl _)
  induction members with
  | nil => exact close
  | cons member members ih =>
      obtain ⟨name, value⟩ := member
      obtain ⟨here, later⟩ := List.forall_mem_cons.mp each
      cases members with
      | nil =>
          have own := here close ⟨rfl, by decide⟩
          have colon := own.cons (c := ':') rfl rfl (Nat.le_refl _)
          simpa [writeMembers, memberLexemes] using colon.string name
      | cons next members =>
          have comma := (ih later).cons (c := ',') rfl rfl (Nat.le_refl _)
          have own := here comma ⟨rfl, by decide⟩
          have colon := own.cons (c := ':') rfl rfl (Nat.le_refl _)
          simpa [writeMembers, memberLexemes] using colon.string name

/-- A value whose numbers are integers of 64 bits has its lexemes as tokens, by induction on the
value.
-/
theorem legible_of_exact {value : Json} (exact : ∀ n ∈ value.numbers, n.Exact)
    : value.Legible := by
  intro rest found h stops
  induction value using Json.induction generalizing rest found with
  | null => exact h.cons rfl rfl (by simp; omega)
  | bool b => cases b <;> exact h.cons rfl rfl (by simp; omega)
  | number n =>
      cases exact n (by simp [numbers]) with
      | integer low high => exact h.integer (.integer low high) stops
  | string s => exact h.string s
  | array items ih =>
      have each : ∀ item ∈ items, item.Legible := fun item member => ih item member
        fun n listed => exact n (mem_numbers_array.mpr ⟨item, member, listed⟩)
      exact (scans_writeItems each h).cons rfl rfl (Nat.le_refl _)
  | object members ih =>
      have each : ∀ member ∈ members, member.2.Legible := fun member listed => ih member listed
        fun n within => exact n (mem_numbers_object.mpr ⟨member, listed, within⟩)
      exact (scans_writeMembers each h).cons rfl rfl (Nat.le_refl _)

/-- The tokens of the text of a value. -/
theorem lexemes_scan_write {value : Json} (exact : ∀ n ∈ value.numbers, n.Exact)
    : (Token.scan value.write).map Token.lexeme = value.lexemes := by
  have whole := legible_of_exact exact .nil trivial
  rw [List.append_nil, List.append_nil] at whole
  exact whole _ (Nat.le_refl _)

end Phrasebook.Json
