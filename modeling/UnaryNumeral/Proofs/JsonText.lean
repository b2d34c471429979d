import UnaryNumeral.CommandLine.Report

namespace UnaryNumeral.CommandLine

namespace Json

def IsSpace (text : List Char) : Prop := ∀ c ∈ text, c = ' ' ∨ c = '\n' ∨ c = '\r' ∨ c = '\t'

def hexDigits : List Char := "0123456789abcdef".toList

/-- The number that lower-case hexadecimal digits spell. -/
def hexValue (digits : List Char) : Nat :=
  digits.foldl (fun value digit => 16 * value + hexDigits.idxOf digit) 0

/-- How a string spells one of its characters: as itself, unless that is a quote, a backslash or a
control character, by a letter behind a backslash, or by its code. -/
inductive SpellsChar : Char → List Char → Prop where
  | itself {c : Char} (control : 0x20 ≤ c.toNat) (quote : c ≠ '"') (backslash : c ≠ '\\') :
      SpellsChar c [c]
  | quote : SpellsChar '"' ['\\', '"']
  | backslash : SpellsChar '\\' ['\\', '\\']
  | lineFeed : SpellsChar '\n' ['\\', 'n']
  | carriageReturn : SpellsChar '\r' ['\\', 'r']
  | tab : SpellsChar '\t' ['\\', 't']
  | backspace : SpellsChar '\x08' ['\\', 'b']
  | formFeed : SpellsChar '\x0c' ['\\', 'f']
  | code {c : Char} {digits : List Char} (four : digits.length = 4)
      (hex : ∀ digit ∈ digits, digit ∈ hexDigits) (value : hexValue digits = c.toNat) :
      SpellsChar c ('\\' :: 'u' :: digits)

inductive SpellsChars : List Char → List Char → Prop where
  | nil : SpellsChars [] []
  | cons {c : Char} {rest first later : List Char} (here : SpellsChar c first)
      (others : SpellsChars rest later) : SpellsChars (c :: rest) (first ++ later)

/-- How a value without parts is written. A number has no leading zero. -/
inductive Spells : Scalar → List Char → Prop where
  | null : Spells .null "null".toList
  | true : Spells (.bool Bool.true) "true".toList
  | false : Spells (.bool Bool.false) "false".toList
  | number {n : Nat} {digits : List Char} (nonempty : digits ≠ [])
      (decimal : ∀ c ∈ digits, c.isDigit = Bool.true)
      (shortest : digits.head? = some '0' → digits = ['0'])
      (value : Text.digitsValue digits = n) : Spells (.number n) digits
  | text {text : String} {chars : List Char} (spells : SpellsChars text.toList chars) :
      Spells (.text text) ('"' :: (chars ++ ['"']))

/-- A name, a colon and a value, with space around them. -/
inductive Member : String × Scalar → List Char → Prop where
  | mk {name : String} {value : Scalar} {key text front before after back : List Char}
      (keyed : Spells (.text name) key) (valued : Spells value text) (inFront : IsSpace front)
      (beforeColon : IsSpace before) (afterColon : IsSpace after) (behind : IsSpace back) :
      Member (name, value) (front ++ (key ++ (before ++ ':' :: (after ++ (text ++ back)))))

/-- Members with commas between them. -/
inductive Members : List (String × Scalar) → List Char → Prop where
  | last {field : String × Scalar} {text : List Char} (member : Member field text) :
      Members [field] text
  | more {field : String × Scalar} {fields : List (String × Scalar)} {text later : List Char}
      (member : Member field text) (others : Members fields later) :
      Members (field :: fields) (text ++ ',' :: later)

/-- An object with members, between braces. -/
inductive Object : List (String × Scalar) → List Char → Prop where
  | mk {fields : List (String × Scalar)} {text : List Char} (members : Members fields text) :
      Object fields ('\x7b' :: (text ++ ['\x7d']))

end Json

namespace Scalar

open Json

/-- Control characters have four digits; there are few enough of them to be looked at one by one. -/
theorem spellsChar_hex {c : Char} (control : c.toNat < 0x20) :
    SpellsChar c ('\\' :: 'u' :: Text.hex 4 c.toNat) := by
  have checked : (List.range 0x20).all (fun n => (Text.hex 4 n).length == 4 &&
      (Text.hex 4 n).all hexDigits.contains && hexValue (Text.hex 4 n) == n) = true := by
    decide +kernel
  have fits := List.all_eq_true.mp checked c.toNat (List.mem_range.mpr control)
  simp only [Bool.and_eq_true, beq_iff_eq, List.all_eq_true, List.contains_iff_mem] at fits
  obtain ⟨⟨four, hex⟩, value⟩ := fits
  exact .code four hex value

theorem spellsChar_escape (c : Char) : SpellsChar c (escape c) := by
  unfold escape
  split
  · exact .quote
  · exact .backslash
  · exact .lineFeed
  · exact .carriageReturn
  · exact .tab
  · exact .backspace
  · exact .formFeed
  · rename_i quote backslash _ _ _ _ _
    split
    · rename_i control
      exact spellsChar_hex control
    · rename_i visible
      exact .itself (Nat.not_lt.mp visible) quote backslash

theorem spellsChars_escape (chars : List Char) : SpellsChars chars (chars.flatMap escape) := by
  induction chars with
  | nil => exact .nil
  | cons c rest ih =>
    rw [List.flatMap_cons]
    exact .cons (spellsChar_escape c) ih

/-- Were the first of several digits a zero, the number would do with fewer digits. -/
theorem spells_repr (n : Nat) : Spells (.number n) (Nat.repr n).toList := by
  have decimal : ∀ c ∈ (Nat.repr n).toList, c.isDigit = true := by
    intro c member
    rw [Nat.toList_repr] at member
    exact Nat.isDigit_of_mem_toDigits (by decide) (by decide) member
  refine .number (by simp) decimal ?_ (Text.digitsValue_repr n)
  intro zero
  cases listed : (Nat.repr n).toList with
  | nil => simp at listed
  | cons c rest =>
    rw [listed, List.head?_cons, Option.some.injEq] at zero
    subst zero
    rw [listed] at decimal
    have value := Text.digitsValue_repr n
    have bound := Text.digitsValue_lt (List.forall_mem_cons.mp decimal).2
    have same : Text.digitsValue ('0' :: rest) = Text.digitsValue rest := rfl
    rw [listed, same] at value
    rw [value] at bound
    cases rest with
    | nil => rfl
    | cons d more =>
      have short := (Text.length_repr_le_iff (Nat.succ_pos more.length)).mpr bound
      rw [← String.length_toList, listed, List.length_cons, List.length_cons] at short
      exact absurd short (Nat.not_succ_le_self _)

theorem spells_json (scalar : Scalar) : Spells scalar scalar.json.toList := by
  cases scalar with
  | null => exact .null
  | bool value => cases value <;> constructor
  | number n => exact spells_repr n
  | text value =>
    rw [json, String.toList_ofList]
    exact .text (spellsChars_escape value.toList)

end Scalar

open Json

/-- The members as they are written: with a space behind each colon. -/
def entry (field : String × Scalar) : String := (Scalar.text field.1).json ++ ": " ++ field.2.json

theorem member_entry (field : String × Scalar) {front back : List Char} (inFront : IsSpace front)
    (behind : IsSpace back) : Member field (front ++ ((entry field).toList ++ back)) := by
  have key := (Scalar.text field.1).spells_json
  have value := field.2.spells_json
  have nothing : IsSpace [] := by simp [IsSpace]
  have blank : IsSpace [' '] := by simp [IsSpace]
  have member := Member.mk key value inFront nothing blank behind
  simpa [entry] using member

theorem members_intercalate (field : String × Scalar) (fields : List (String × Scalar))
    {gap front back : List Char} (between : IsSpace gap) (inFront : IsSpace front)
    (behind : IsSpace back) :
    Members (field :: fields)
      (front ++ (((String.ofList (',' :: gap)).intercalate
        ((field :: fields).map entry)).toList ++ back)) := by
  induction fields generalizing field front with
  | nil => simpa using Members.last (member_entry field inFront behind)
  | cons next rest ih =>
    have nothing : IsSpace [] := by simp [IsSpace]
    have here := member_entry field inFront nothing
    have later := ih next between
    have joined := Members.more here later
    simpa [String.intercalate_cons_cons] using joined

theorem object_renderFields (pretty : Bool) (field : String × Scalar)
    (fields : List (String × Scalar)) :
    Object (field :: fields) (renderFields pretty (field :: fields)).toList := by
  have nothing : IsSpace [] := by simp [IsSpace]
  have blank : IsSpace [' '] := by simp [IsSpace]
  have indent : IsSpace ['\n', ' ', ' '] := by simp [IsSpace]
  have line : IsSpace ['\n'] := by simp [IsSpace]
  have entries : (fun field : String × Scalar =>
      (Scalar.text field.1).json ++ ": " ++ field.2.json) = entry := rfl
  unfold renderFields
  rw [entries]
  cases pretty with
  | true =>
    have members := members_intercalate field fields indent indent line
    have object := Object.mk members
    simpa using object
  | false =>
    have members := members_intercalate field fields blank nothing nothing
    have object := Object.mk members
    simpa using object

/-- A report is written as one JSON object with its fields as members. -/
theorem Report.object_json (report : Report) (pretty : Bool) :
    Object report.fields (report.json pretty).toList := object_renderFields pretty _ _

end UnaryNumeral.CommandLine
