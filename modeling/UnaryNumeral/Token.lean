import UnaryNumeral.Error
import UnaryNumeral.Text.Blank
import UnaryNumeral.Text.Identifier

namespace UnaryNumeral

/-- The classes of lexemes. -/
inductive Lexeme where
  | blank
  | opening
  | closing
  | numeral
  | name
  deriving DecidableEq

namespace Lexeme

/-- What may follow the first digit of a numeral. More is taken than a literal can hold, so that a
misspelt literal stays in one piece. -/
def isNumeralPart (c : Char) : Bool := Text.isKeyPart c || c == '.' || c == '%'

/-- How far a dotted name goes on: name characters, and dots in front of a further name. -/
def nameLength : List Char → Nat
  | [] => 0
  | c :: rest =>
    if Text.isNamePart c then 1 + nameLength rest
    else
      match rest with
      | [] => 0
      | d :: more => if c == '.' && Text.isNameStart d then 2 + nameLength more else 0

/-- How far a class of characters goes on. -/
def runLength (part : Char → Bool) (text : List Char) : Nat := (text.takeWhile part).length

/-- The class and the length of the longest lexeme at the front of a text. -/
def first? : List Char → Option (Lexeme × Nat)
  | [] => none
  | c :: rest =>
    if Text.isBlank c then some (blank, 1 + runLength Text.isBlank rest)
    else if c = '(' then some (opening, 1)
    else if c = ')' then some (closing, 1)
    else if c.isDigit then some (numeral, 1 + runLength isNumeralPart rest)
    else if c = '-' then
      match rest with
      | d :: more => if d.isDigit then some (numeral, 2 + runLength isNumeralPart more) else none
      | [] => none
    else if Text.isNameStart c then some (name, 1 + nameLength rest)
    else none

theorem first?_length_pos {text : List Char} {lexeme : Lexeme} {length : Nat}
    (found : first? text = some (lexeme, length)) : 0 < length := by
  unfold first? at found
  grind

theorem first?_nonempty {text : List Char} {lexeme : Lexeme} {length : Nat}
    (found : first? text = some (lexeme, length)) : text ≠ [] := by
  rintro rfl
  simp [first?] at found

end Lexeme

/-- A lexeme with its text and span. -/
structure Token where
  lexeme : Lexeme
  text : String
  span : Span
  deriving DecidableEq

namespace Token

/-- Cuts the rest of a text that starts at a position. The tokens so far are kept with the latest
first. The error is the position of the first character that starts no lexeme. -/
def scan (source : Option String) (position : Nat) (rest : List Char) (tokens : List Token) :
    Except Nat (List Token) :=
  match _found : Lexeme.first? rest with
  | none => if rest.isEmpty then .ok tokens.reverse else .error position
  | some (lexeme, length) =>
    let token : Token :=
      ⟨lexeme, String.ofList (rest.take length), ⟨position, position + length, source⟩⟩
    scan source (position + length) (rest.drop length)
      (if lexeme = .blank then tokens else token :: tokens)
termination_by rest.length
decreasing_by
  have positive := Lexeme.first?_length_pos _found
  have nonempty := List.length_pos_iff.mpr (Lexeme.first?_nonempty _found)
  simp only [List.length_drop]
  omega

theorem scan_nil (source : Option String) (position : Nat) (tokens : List Token) :
    scan source position [] tokens = .ok tokens.reverse := by
  rw [scan.eq_def]
  rfl

theorem scan_of_first? (source : Option String) (position : Nat) (tokens : List Token)
    {text : List Char} {lexeme : Lexeme} {length : Nat}
    (found : Lexeme.first? text = some (lexeme, length)) :
    scan source position text tokens =
      scan source (position + length) (text.drop length)
        (if lexeme = .blank then tokens
          else ⟨lexeme, String.ofList (text.take length), ⟨position, position + length, source⟩⟩ ::
            tokens) := by
  rw [scan.eq_def]
  split
  · rename_i none
    cases found.symm.trans none
  · rename_i other
    cases found.symm.trans other
    rfl

def ofText (text : String) (source : Option String := none) : Except Error (List Token) :=
  match scan source 0 text.toList [] with
  | .ok tokens => .ok tokens
  | .error position =>
    .error (.malformed text ⟨position, position + 1, source⟩ (.strayCharacter position))

theorem ofText_of_first? {text : String} {lexeme : Lexeme} (solid : lexeme ≠ .blank)
    (found : Lexeme.first? text.toList = some (lexeme, text.length)) (source : Option String) :
    ofText text source = .ok [⟨lexeme, text, ⟨0, text.length, source⟩⟩] := by
  have scanned := scan_of_first? source 0 [] found
  rw [← String.length_toList, List.drop_length, scan_nil, if_neg solid, List.take_length,
    String.ofList_toList, String.length_toList] at scanned
  simp [ofText, scanned]

end Token

end UnaryNumeral
