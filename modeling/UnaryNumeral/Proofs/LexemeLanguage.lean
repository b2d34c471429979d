import Mathlib.Computability.Language
import Mathlib.Data.List.TakeWhile
import UnaryNumeral.Proofs.DottedNames

/-! The classes of lexemes as languages. The lexeme at the front of a text is the longest beginning
of the text that belongs to any class, and a text starts with no lexeme when no beginning of it
belongs to one. -/

namespace UnaryNumeral

open scoped Computability

namespace Lexeme

/-- The texts of a single character of a class. -/
def single (part : Char → Bool) : Language Char :=
  {text : List Char | ∃ c, part c = true ∧ text = [c]}

/-- Names without dots. -/
def word : Language Char := single Text.isNameStart * (single Text.isNamePart)∗

/-- The texts that belong to a class. -/
def language : Lexeme → Language Char
  | blank => single Text.isBlank * (single Text.isBlank)∗
  | opening => {['(']}
  | closing => {[')']}
  | numeral => (1 + {['-']}) * (single Char.isDigit * (single isNumeralPart)∗)
  | name => word * ({['.']} * word)∗

theorem mem_single_kstar_iff (part : Char → Bool) (text : List Char) :
    text ∈ (single part)∗ ↔ ∀ c ∈ text, part c = true := by
  rw [Language.mem_kstar]
  constructor
  · intro joined
    obtain ⟨pieces, rfl, each⟩ := joined
    intro c member
    obtain ⟨piece, listed, inside⟩ := List.mem_flatten.mp member
    obtain ⟨d, holds, rfl⟩ := each piece listed
    rw [List.mem_singleton.mp inside]
    exact holds
  · intro all
    refine ⟨text.map fun c => [c], (List.flatMap_singleton' text).symm, ?_⟩
    intro piece listed
    obtain ⟨c, member, rfl⟩ := List.mem_map.mp listed
    exact ⟨c, all c member, rfl⟩

theorem mem_single_mul_iff (part : Char → Bool) (rest : Language Char) (text : List Char) :
    text ∈ single part * rest ↔ ∃ c behind, text = c :: behind ∧ part c = true ∧ behind ∈ rest := by
  rw [Language.mem_mul]
  constructor
  · intro split
    obtain ⟨_, ⟨c, holds, rfl⟩, behind, member, rfl⟩ := split
    exact ⟨c, behind, rfl, holds, member⟩
  · intro split
    obtain ⟨c, behind, rfl, holds, member⟩ := split
    exact ⟨[c], ⟨c, holds, rfl⟩, behind, member, rfl⟩

theorem mem_character_mul_iff (c : Char) (rest : Language Char) (text : List Char) :
    text ∈ {[c]} * rest ↔ ∃ behind, text = c :: behind ∧ behind ∈ rest := by
  rw [Language.mem_mul]
  constructor
  · intro split
    obtain ⟨_, rfl, behind, member, rfl⟩ := split
    exact ⟨behind, rfl, member⟩
  · intro split
    obtain ⟨behind, rfl, member⟩ := split
    exact ⟨[c], rfl, behind, member, rfl⟩

theorem runLength_eq_length_iff (part : Char → Bool) (text : List Char) :
    runLength part text = text.length ↔ ∀ c ∈ text, part c = true := by
  rw [runLength, ← List.takeWhile_eq_self_iff]
  constructor
  · intro same
    exact (List.takeWhile_prefix part).eq_of_length same
  · intro same
    rw [same]

/-- What a name may go on with behind its first character. -/
def nameTail : Language Char := (single Text.isNamePart)∗ * ({['.']} * word)∗

/-- Behind its first character a name ends, goes on with a name character, or goes on with a dot and
the start of a further name. -/
theorem nameTail_eq :
    nameTail = 1 + (single Text.isNamePart * nameTail +
      {['.']} * (single Text.isNameStart * nameTail)) := by
  have parts := Language.one_add_self_mul_kstar_eq_kstar (single Text.isNamePart)
  have words := Language.one_add_self_mul_kstar_eq_kstar ({['.']} * word)
  calc nameTail
      = (1 + single Text.isNamePart * (single Text.isNamePart)∗) * ({['.']} * word)∗ := by
        rw [parts, nameTail]
    _ = ({['.']} * word)∗ + single Text.isNamePart * nameTail := by
        rw [add_mul, one_mul, mul_assoc, nameTail]
    _ = (1 + {['.']} * word * ({['.']} * word)∗) + single Text.isNamePart * nameTail := by
        rw [words]
    _ = 1 + (single Text.isNamePart * nameTail +
          {['.']} * (single Text.isNameStart * nameTail)) := by
        rw [add_assoc, add_comm ({['.']} * word * _)]
        simp only [word, nameTail, mul_assoc]

theorem mem_nameTail_iff (text : List Char) :
    text ∈ nameTail ↔ text = [] ∨
      (∃ c behind, text = c :: behind ∧ Text.isNamePart c = true ∧ behind ∈ nameTail) ∨
      ∃ c behind, text = '.' :: c :: behind ∧ Text.isNameStart c = true ∧ behind ∈ nameTail := by
  conv_lhs => rw [nameTail_eq]
  rw [Language.mem_add, Language.mem_one, Language.mem_add, mem_single_mul_iff,
    mem_character_mul_iff]
  simp only [mem_single_mul_iff]
  grind

theorem nameLength_eq_length_iff (text : List Char) :
    nameLength text = text.length ↔ text ∈ nameTail := by
  have dot : Text.isNamePart '.' = false := rfl
  fun_induction nameLength text with
  | case1 => simp [mem_nameTail_iff []]
  | case2 c rest part ih =>
    have other : c ≠ '.' := by
      rintro rfl
      cases dot.symm.trans part
    rw [mem_nameTail_iff]
    grind
  | case3 c part =>
    rw [mem_nameTail_iff]
    grind
  | case4 c part d rest dotted ih =>
    rw [mem_nameTail_iff]
    grind
  | case5 c part d rest dotted =>
    rw [mem_nameTail_iff]
    grind

theorem Leads.whole {text : List Char} {lexeme : Lexeme} {length : Nat}
    (leads : Leads text lexeme length) (size : length = text.length) :
    Leads text lexeme text.length := size ▸ leads

theorem mem_blank_iff (text : List Char) :
    text ∈ language blank ↔ Leads text blank text.length := by
  rw [language, mem_single_mul_iff]
  simp only [mem_single_kstar_iff, ← runLength_eq_length_iff]
  constructor
  · intro spelt
    obtain ⟨c, rest, rfl, space, run⟩ := spelt
    exact (Leads.blank space).whole (by rw [run, List.length_cons, Nat.add_comm])
  · intro leads
    generalize size : text.length = length at leads
    cases leads with
    | @blank c rest space =>
      rw [List.length_cons] at size
      exact ⟨c, rest, rfl, space, by omega⟩

theorem mem_numeral_iff (text : List Char) :
    text ∈ language numeral ↔ Leads text numeral text.length := by
  rw [language, add_mul, one_mul, Language.mem_add, mem_character_mul_iff]
  simp only [mem_single_mul_iff, mem_single_kstar_iff, ← runLength_eq_length_iff]
  constructor
  · intro spelt
    obtain ⟨c, rest, rfl, digit, run⟩ | ⟨_, rfl, c, rest, rfl, digit, run⟩ := spelt
    · exact (Leads.numeral digit).whole (by rw [run, List.length_cons, Nat.add_comm])
    · exact (Leads.negative digit).whole
        (by rw [run, List.length_cons, List.length_cons, Nat.add_comm])
  · intro leads
    generalize size : text.length = length at leads
    cases leads with
    | @numeral c rest digit =>
      rw [List.length_cons] at size
      exact .inl ⟨c, rest, rfl, digit, by omega⟩
    | @negative c rest digit =>
      rw [List.length_cons, List.length_cons] at size
      exact .inr ⟨_, rfl, c, rest, rfl, digit, by omega⟩

theorem mem_name_iff (text : List Char) : text ∈ language name ↔ Leads text name text.length := by
  have first : language name = single Text.isNameStart * nameTail := by
    rw [language, nameTail, ← mul_assoc]
    rfl
  rw [first, mem_single_mul_iff]
  simp only [← nameLength_eq_length_iff]
  constructor
  · intro spelt
    obtain ⟨c, rest, rfl, start, run⟩ := spelt
    exact (Leads.name start).whole (by rw [run, List.length_cons, Nat.add_comm])
  · intro leads
    generalize size : text.length = length at leads
    cases leads with
    | @name c rest start =>
      rw [List.length_cons] at size
      exact ⟨c, rest, rfl, start, by omega⟩

/-- A text belongs to a class if it is a lexeme of this class from the front to the end. -/
theorem mem_language_iff (lexeme : Lexeme) (text : List Char) :
    text ∈ lexeme.language ↔ Leads text lexeme text.length := by
  cases lexeme with
  | blank => exact mem_blank_iff text
  | numeral => exact mem_numeral_iff text
  | name => exact mem_name_iff text
  | opening =>
    constructor
    · rintro rfl
      exact .opening
    · intro leads
      generalize size : text.length = length at leads
      cases leads with
      | @opening rest =>
        obtain rfl := List.length_eq_zero_iff.mp (Nat.succ.inj size)
        rfl
  | closing =>
    constructor
    · rintro rfl
      exact .closing
    · intro leads
      generalize size : text.length = length at leads
      cases leads with
      | @closing rest =>
        obtain rfl := List.length_eq_zero_iff.mp (Nat.succ.inj size)
        rfl

theorem runLength_le_append (part : Char → Bool) (front behind : List Char) :
    runLength part front ≤ runLength part (front ++ behind) := by
  induction front with
  | nil => exact Nat.zero_le _
  | cons c rest ih =>
    simp only [runLength, List.cons_append, List.takeWhile_cons] at ih ⊢
    split
    · rw [List.length_cons, List.length_cons]
      omega
    · exact Nat.le_refl _

theorem nameLength_cons_of_isNamePart {c : Char} (part : Text.isNamePart c = true)
    (rest : List Char) : nameLength (c :: rest) = 1 + nameLength rest := by
  rw [nameLength.eq_def]
  simp only [part, if_true]

theorem nameLength_cons_of_dotted {c d : Char} (part : ¬Text.isNamePart c = true)
    (dotted : (c == '.' && Text.isNameStart d) = true) (rest : List Char) :
    nameLength (c :: d :: rest) = 2 + nameLength rest := by
  rw [nameLength.eq_def]
  simp only [part, dotted, if_true, if_false, Bool.false_eq_true]

theorem nameLength_le_append (front behind : List Char) :
    nameLength front ≤ nameLength (front ++ behind) := by
  fun_induction nameLength front with
  | case1 => exact Nat.zero_le _
  | case2 c rest part ih =>
    rw [List.cons_append, nameLength_cons_of_isNamePart part]
    omega
  | case3 c part => exact Nat.zero_le _
  | case4 c part d rest dotted ih =>
    rw [List.cons_append, List.cons_append, nameLength_cons_of_dotted part dotted]
    omega
  | case5 c part d rest dotted => exact Nat.zero_le _

/-- What starts with a lexeme goes on to start with one, of the same class and no shorter, whatever
is put behind. -/
theorem Leads.append {front : List Char} {lexeme : Lexeme} {length : Nat}
    (leads : Leads front lexeme length) (behind : List Char) :
    ∃ more, Leads (front ++ behind) lexeme more ∧ length ≤ more := by
  cases leads with
  | @blank c rest space =>
    exact ⟨_, .blank space, Nat.add_le_add_left (runLength_le_append ..) 1⟩
  | opening => exact ⟨1, .opening, Nat.le_refl _⟩
  | closing => exact ⟨1, .closing, Nat.le_refl _⟩
  | @numeral c rest digit =>
    exact ⟨_, .numeral digit, Nat.add_le_add_left (runLength_le_append ..) 1⟩
  | @negative c rest digit =>
    exact ⟨_, .negative digit, Nat.add_le_add_left (runLength_le_append ..) 2⟩
  | @name c rest start =>
    exact ⟨_, .name start, Nat.add_le_add_left (nameLength_le_append ..) 1⟩

theorem Leads.unique {text : List Char} {lexeme other : Lexeme} {length more : Nat}
    (leads : Leads text lexeme length) (again : Leads text other more) :
    other = lexeme ∧ more = length := by
  have found := (first?_eq_some_iff ..).mpr leads
  have same := found.symm.trans ((first?_eq_some_iff ..).mpr again)
  cases same
  exact ⟨rfl, rfl⟩

theorem Leads.length_eq_one {text : List Char} {lexeme : Lexeme} {length : Nat}
    (leads : Leads text lexeme length) (parenthesis : lexeme = .opening ∨ lexeme = .closing) :
    length = 1 := by
  cases leads with
  | opening => rfl
  | closing => rfl
  | _ => simp at parenthesis

theorem Leads.mem_language {text : List Char} {lexeme : Lexeme} {length : Nat}
    (leads : Leads text lexeme length) : text.take length ∈ lexeme.language := by
  rw [mem_language_iff, List.length_take, Nat.min_eq_left leads.length_le]
  exact leads.take (Nat.le_refl _)

/-- A beginning of a text that belongs to a class leads to a lexeme of this class that is no
shorter. -/
theorem exists_leads_of_mem_language {text : List Char} {lexeme : Lexeme} {count : Nat}
    (belongs : text.take count ∈ lexeme.language) :
    ∃ length, Leads text lexeme length ∧ min count text.length ≤ length := by
  obtain ⟨length, leads, enough⟩ :=
    ((mem_language_iff ..).mp belongs).append (text.drop count)
  rw [List.take_append_drop] at leads
  rw [List.length_take] at enough
  exact ⟨length, leads, enough⟩

/-- No longer beginning of a text belongs to any class. -/
theorem Leads.longest {text : List Char} {lexeme other : Lexeme} {length count : Nat}
    (leads : Leads text lexeme length) (inside : count ≤ text.length)
    (belongs : text.take count ∈ other.language) : other = lexeme ∧ count ≤ length := by
  obtain ⟨more, again, enough⟩ := exists_leads_of_mem_language belongs
  obtain ⟨rfl, rfl⟩ := leads.unique again
  rw [Nat.min_eq_left inside] at enough
  exact ⟨rfl, enough⟩

/-- A text starts with no lexeme when no beginning of it belongs to a class. -/
theorem first?_eq_none_iff (text : List Char) :
    first? text = none ↔ ∀ lexeme count, text.take count ∉ language lexeme := by
  constructor
  · intro absent lexeme count belongs
    obtain ⟨length, leads, -⟩ := exists_leads_of_mem_language belongs
    cases absent.symm.trans ((first?_eq_some_iff ..).mpr leads)
  · intro apart
    apply Option.eq_none_iff_forall_ne_some.mpr
    rintro ⟨lexeme, length⟩ found
    exact apart lexeme length ((first?_eq_some_iff ..).mp found).mem_language

/-- No text of a language holds a blank. -/
def Solid (texts : Language Char) : Prop := ∀ text ∈ texts, ∀ c ∈ text, Text.isBlank c = false

theorem solid_single {part : Char → Bool} (apart : ∀ c, part c = true → Text.isBlank c = false) :
    Solid (single part) := by
  intro text spelt c member
  obtain ⟨d, holds, rfl⟩ := spelt
  rw [List.mem_singleton.mp member]
  exact apart d holds

theorem solid_character {c : Char} (apart : Text.isBlank c = false) : Solid {[c]} := by
  rintro _ rfl d member
  rw [List.mem_singleton.mp member]
  exact apart

theorem Solid.mul {front behind : Language Char} (first : Solid front) (later : Solid behind) :
    Solid (front * behind) := by
  intro text spelt c member
  obtain ⟨start, begins, rest, ends, rfl⟩ := Language.mem_mul.mp spelt
  rcases List.mem_append.mp member with early | late
  · exact first start begins c early
  · exact later rest ends c late

theorem Solid.kstar {repeated : Language Char} (each : Solid repeated) : Solid repeated∗ := by
  intro text spelt c member
  obtain ⟨pieces, rfl, listed⟩ := Language.mem_kstar.mp spelt
  obtain ⟨piece, among, inside⟩ := List.mem_flatten.mp member
  exact each piece (listed piece among) c inside

theorem language_solid {lexeme : Lexeme} (other : lexeme ≠ .blank) : Solid lexeme.language := by
  have digits : Solid (single Char.isDigit) :=
    solid_single fun c digit => Text.not_isBlank_of_isKeyPart (Text.isKeyPart_of_isDigit digit)
  have numerals : Solid (single isNumeralPart) := by
    apply solid_single
    intro c part
    simp only [isNumeralPart, Bool.or_eq_true, beq_iff_eq] at part
    obtain (key | rfl) | rfl := part
    · exact Text.not_isBlank_of_isKeyPart key
    · rfl
    · rfl
  have parts : Solid (single Text.isNamePart) :=
    solid_single fun c => Text.not_isBlank_of_isNamePart
  have starts : Solid (single Text.isNameStart) :=
    solid_single fun c start => Text.not_isBlank_of_isKeyPart (Text.isKeyPart_of_isNameStart start)
  have words : Solid word := starts.mul parts.kstar
  cases lexeme with
  | blank => exact absurd rfl other
  | opening => exact solid_character rfl
  | closing => exact solid_character rfl
  | numeral =>
    have sign : Solid (1 + {['-']}) := by
      intro text spelt
      rcases (Language.mem_add ..).mp spelt with empty | minus
      · rw [(Language.mem_one text).mp empty]
        simp
      · exact solid_character rfl text minus
    exact sign.mul (digits.mul numerals.kstar)
  | name =>
    have dotted : Solid ({['.']} * word) := Solid.mul (solid_character rfl) words
    exact words.mul dotted.kstar

theorem isBlank_of_mem_language {text : List Char} (belongs : text ∈ language .blank) :
    ∀ c ∈ text, Text.isBlank c = true := by
  obtain ⟨c, rest, rfl, space, spaces⟩ := (mem_single_mul_iff _ _ _).mp belongs
  exact List.forall_mem_cons.mpr ⟨space, (mem_single_kstar_iff _ _).mp spaces⟩

theorem nil_notMem_language (lexeme : Lexeme) : [] ∉ lexeme.language := by
  intro belongs
  have leads := (mem_language_iff ..).mp belongs
  exact absurd leads.length_pos (Nat.lt_irrefl 0)

end Lexeme

end UnaryNumeral
