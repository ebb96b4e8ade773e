import Phrasebook.Command.Run
import Phrasebook.Proofs.Interpolation.Reference
import Phrasebook.Proofs.Interpolation.Skeleton
import Phrasebook.Proofs.Text.Spelling

/-! The values of parameters on the command line. Those that spell integers become numbers, and a
number is shown in its shortest spelling. Apart from that the text is the one for the same values
kept as texts.
-/

namespace Phrasebook

open Phrasebook.Text

-----------------------------------------------------------------------------------------
-- Values that are shown alike
-----------------------------------------------------------------------------------------

/-- Changing every value does not change which pair a name leads to, by induction on the pairs. -/
theorem Ordered.lookup_map {α β : Type} (f : α → β) (pairs : List (String × α)) (name : String)
    : (pairs.map fun (name, a) => (name, f a)).lookup name = (pairs.lookup name).map f := by
  induction pairs with
  | nil => rfl
  | cons pair rest ih =>
      obtain ⟨first, a⟩ := pair
      rw [List.map_cons, List.lookup_cons, List.lookup_cons, ih]
      cases name == first <;> rfl

namespace Bindings

variable {α : Type} {f g : α → Value}

theorem names_ofList_map (f : α → Value) (pairs : List (String × α))
    : (ofList (pairs.map fun (name, a) => (name, f a))).names =
      (pairs.map Prod.fst).eraseDups := by
  rw [names_ofList, List.map_map]
  rfl

/-- Names keep their texts if each value gives way to one that is shown alike. -/
theorem textOr_ofList_map (alike : ∀ a, (f a).display = (g a).display)
    (pairs : List (String × α)) (default : Value) (name : String)
    : (ofList (pairs.map fun (name, a) => (name, f a))).textOr default name =
      (ofList (pairs.map fun (name, a) => (name, g a))).textOr default name := by
  simp only [textOr, get?_ofList, ← List.map_reverse, Ordered.lookup_map]
  cases pairs.reverse.lookup name with
  | none => rfl
  | some a => exact alike a

end Bindings

namespace Dictionary

/-- Only the names of bindings, in their order, and the texts of these names matter. -/
theorem answer_congr (d : Dictionary) (key : String) (count : Option Int64) {b c : Bindings}
    (names : b.names = c.names)
    (texts : ∀ default name, b.textOr default name = c.textOr default name)
    : d.answer key count (.bindings b) = d.answer key count (.bindings c) := by
  cases count with
  | none =>
      have same := funext (texts (.text ""))
      have listed : b.entries.map Prod.fst = c.entries.map Prod.fst := names
      rw [answer, answer, d.translate_eq_render key b (.text ""),
        d.translate_eq_render key c (.text ""), same, listed]
  | some count =>
      have same := funext (texts (.number count))
      have listed : b.entries.map Prod.fst = c.entries.map Prod.fst := names
      rw [answer, answer, translatePlural_eq_render, translatePlural_eq_render, same, listed]

end Dictionary

namespace Command

-----------------------------------------------------------------------------------------
-- Parameters
-----------------------------------------------------------------------------------------

/-- The argument that the parameters stand for if their values are read by the function. -/
def argumentWith (read : String → Value) (params : List (String × String)) : Argument :=
  if params = [] then .none
  else .bindings (.ofList (params.map fun (name, value) => (name, read value)))

theorem paramArgument_eq (params : List (String × String))
    : paramArgument params = argumentWith paramValue params := rfl

/-- The shortest spelling of the integer that the value spells, and every other value as it is. -/
def respelled (value : String) : String :=
  match readInteger value.toList with
  | some _ => String.ofList (shortened value.toList)
  | none => value

/-- Requires the value to be in its shortest spelling if it spells an integer. -/
def KeepsSpelling (value : String) : Prop :=
  ∀ n, Spells value.toList n → Shortest value.toList

theorem display_paramValue (value : String) : (paramValue value).display = respelled value := by
  rw [paramValue, respelled]
  cases read : readInteger value.toList with
  | none => rfl
  | some n => exact congrArg String.ofList (readInteger_eq_some_iff.mp read).writeInteger_eq

theorem respelled_eq_self_iff {value : String} : respelled value = value ↔ KeepsSpelling value := by
  rw [respelled]
  cases read : readInteger value.toList with
  | none =>
      refine iff_of_true rfl fun n spells => ?_
      rw [readInteger_eq_some_iff.mpr spells] at read
      contradiction
  | some n =>
      have spells := readInteger_eq_some_iff.mp read
      rw [← String.toList_inj, String.toList_ofList, spells.shortened_eq_self_iff]
      exact ⟨fun shortest _ _ => shortest, fun keeps => keeps n spells⟩

theorem argumentWith_map (read : String → Value) (change : String → String)
    (params : List (String × String))
    : argumentWith read (params.map fun (name, value) => (name, change value)) =
      argumentWith (read ∘ change) params := by
  simp only [argumentWith, List.map_eq_nil_iff, List.map_map]
  rfl

/-- Reading the values in two ways leads to the same text if they are shown alike. -/
theorem answer_argumentWith_congr (d : Dictionary) (key : String) (count : Option Int64)
    {read other : String → Value} (alike : ∀ value, (read value).display = (other value).display)
    (params : List (String × String))
    : d.answer key count (argumentWith read params) =
      d.answer key count (argumentWith other params) := by
  rw [argumentWith, argumentWith]
  split
  · rfl
  · refine d.answer_congr key count ?_ (Bindings.textOr_ofList_map alike params)
    rw [Bindings.names_ofList_map read, Bindings.names_ofList_map other]

/-- Values that may become numbers lead to the text for the values respelled and kept as texts. -/
theorem answer_paramArgument (d : Dictionary) (key : String) (count : Option Int64)
    (params : List (String × String))
    : d.answer key count (paramArgument params) =
      d.answer key count
        (argumentWith .text (params.map fun (name, value) => (name, respelled value))) := by
  rw [paramArgument_eq, argumentWith_map]
  exact answer_argumentWith_congr d key count display_paramValue params

theorem map_respelled_eq_self {params : List (String × String)}
    (keep : ∀ param ∈ params, KeepsSpelling param.2)
    : params.map (fun (name, value) => (name, respelled value)) = params := by
  refine (List.map_congr_left fun param member => ?_).trans (List.map_id params)
  exact congrArg (param.1, ·) (respelled_eq_self_iff.mpr (keep param member))

/-- The template that is the placeholder of a name is filled with its value. -/
theorem answer_placeholder {name : String} (named : name ≠ "") (read : String → Value)
    (value : String)
    : (⟨[("k", .text (":" ++ name))]⟩ : Dictionary).answer "k" none
        (argumentWith read [(name, value)]) =
      (read value).display := by
  have found : (⟨[("k", .text (":" ++ name))]⟩ : Dictionary).lookup "k" = some (":" ++ name) :=
    rfl
  have argument : (argumentWith read [(name, value)]).normalize =
      some (.ofList [(name, read value)]) := rfl
  have entries : (Bindings.ofList [(name, read value)]).entries = [(name, read value)] := rfl
  have template : (":" ++ name).toList = ':' :: name.toList := by simp
  have filled := Interpolation.fill_cons_placeholder named (read value) [] []
  rw [Interpolation.fill_of_free List.not_mem_nil, List.append_nil, List.append_nil] at filled
  rw [Dictionary.answer, Dictionary.translate, argument, Dictionary.resolveDirect_bindings, found,
    Option.getD_some, Option.getD_some, interpolate, entries, template, filled,
    String.ofList_toList]

-----------------------------------------------------------------------------------------
-- Texts of typed values
-----------------------------------------------------------------------------------------

/-- Translating with parameters, some of whose values become numbers, gives what the same values give
as texts, except that the spelling of each integer is shortened; and this text is printed. So it is
the text of the values as they were typed if all integers among them are in their shortest spelling.
The value of a single parameter is as it was typed in every text exactly if it is no integer or in
its shortest spelling.
-/
theorem typed_values_respelled (d : Dictionary) (key : String) (count : Option Int64)
    (params : List (String × String))
    : let text := d.answer key count
        (argumentWith .text (params.map fun (name, value) => (name, respelled value)))
      translateKey d key count params = ⟨key, text, if text = key then d.suggestions key else []⟩
        ∧ (∀ files colored path,
            load files path = .ok d →
              (runTranslate files colored path key count params false).out = text ++ "\n")
        ∧ ((∀ param ∈ params, KeepsSpelling param.2) →
            text = d.answer key count (argumentWith .text params))
        ∧ ∀ name value,
            name ≠ "" →
              ((∀ e other number,
                  (translateKey e other number [(name, value)]).result =
                    e.answer other number (argumentWith .text [(name, value)])) ↔
                KeepsSpelling value) := by
  intro text
  have translated : translateKey d key count params =
      ⟨key, text, if text = key then d.suggestions key else []⟩ := by
    rw [translateKey, answer_paramArgument]
  refine ⟨translated, ?_, ?_, ?_⟩
  · intro files colored path loaded
    simp only [runTranslate, loaded, translated]
    simp [printed, String.join]
  · intro keep
    exact congrArg (fun texts => d.answer key count (argumentWith .text texts))
      (map_respelled_eq_self keep)
  · intro name value named
    constructor
    · intro typed
      have shown := typed ⟨[("k", .text (":" ++ name))]⟩ "k" none
      rw [translateKey, paramArgument_eq, answer_placeholder named, answer_placeholder named,
        display_paramValue] at shown
      exact respelled_eq_self_iff.mp shown
    · intro keep e other number
      rw [translateKey, answer_paramArgument, map_respelled_eq_self (by simpa using keep)]

/-- The least integer, a fraction with a zero in front, and a number beyond 64 bits with zeros in front
are shown as they were typed.
-/
theorem typed_values_shown
    : let files : Files := fun _ => .ok "\x7b\"k\":\"one|:n of :m, :big\"\x7d"
      let d : Dictionary := ⟨[("k", .text "one|:n of :m, :big")]⟩
      let params :=
        [("n", "-9223372036854775808"), ("m", "01.50"), ("big", "009223372036854775808")]
      load files "en.json" = .ok d
        ∧ (∀ param ∈ params, KeepsSpelling param.2)
        ∧ (runTranslate files false "en.json" "k" (some 2) params false).out =
            "-9223372036854775808 of 01.50, 009223372036854775808\n"
        ∧ "n" ≠ ""
        ∧ ∀ e other number,
            (translateKey e other number [("n", "-5")]).result =
              e.answer other number (argumentWith .text [("n", "-5")]) := by
  intro files d params
  have loaded : load files "en.json" = .ok d := by cbv
  have keep : ∀ param ∈ params, KeepsSpelling param.2 := by
    have each : ∀ param ∈ params, respelled param.2 = param.2 := by decide
    exact fun param member => respelled_eq_self_iff.mp (each param member)
  have text : d.answer "k" (some 2) (argumentWith .text params) =
      "-9223372036854775808 of 01.50, 009223372036854775808" := by decide
  obtain ⟨-, line, kept, typed⟩ := typed_values_respelled d "k" (some 2) params
  refine ⟨loaded, keep, ?_, by decide, ?_⟩
  · rw [line files false "en.json" loaded, kept keep, text]
    rfl
  · exact (typed "n" "-5" (by decide)).mpr (respelled_eq_self_iff.mp (by decide))

/-- Zeros in front of a value that becomes a number are not shown. -/
theorem leading_zeros_not_shown
    : let d : Dictionary := ⟨[("k", .text ":n")]⟩
      let params := [("n", "007")]
      (translateKey d "k" none params).result = "7"
        ∧ d.answer "k" none (argumentWith .text params) = "007" :=
  ⟨by decide, by decide⟩

end Command

end Phrasebook
