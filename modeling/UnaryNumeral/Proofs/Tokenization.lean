import UnaryNumeral.Proofs.LexemeLanguage

/-! Cutting a text into tokens loses nothing and takes each lexeme as long as it can be. What this
says about the tokens determines them, and where it cannot be met it determines the place at which
the cutting stops. -/

namespace UnaryNumeral

namespace Span

/-- The place of a character is one of those that a span covers. -/
def Contains (span : Span) (place : Nat) : Prop := span.start ≤ place ∧ place < span.stop

theorem toList_excerpt (start : Nat) (stop : Int) (source : Option String) (text : String) :
    ((⟨start, stop, source⟩ : Span).excerpt text).toList =
      (text.toList.drop start).take (stop.toNat - start) := by
  rw [Span.excerpt, String.toList_ofList, Int.toNat_natCast, List.drop_take]

end Span

theorem exists_getElem? {text : String} {place : Nat} (inside : place < text.length) :
    ∃ c, text.toList[place]? = some c := by
  rw [← String.length_toList] at inside
  exact ⟨_, List.getElem?_eq_getElem inside⟩

theorem mem_take_drop {chars : List Char} {c : Char} {start length place : Nat}
    (here : chars[place]? = some c) (begun : start ≤ place) (going : place < start + length) :
    c ∈ (chars.drop start).take length := by
  have index : ((chars.drop start).take length)[place - start]? = some c := by
    rw [List.getElem?_take_of_lt (by omega), List.getElem?_drop, Nat.add_sub_cancel' begun, here]
  exact List.mem_of_getElem? index

namespace Token

variable {text : String} {source : Option String}

/-- A token is cut out of a text: its span covers its text, which is a lexeme of its class, holds no
blank and, unless it is a parenthesis, does not go on any further. -/
structure StandsIn (token : Token) (text : String) (source : Option String) : Prop where
  source : token.span.source = source
  nonempty : token.span.start < token.span.stop
  inside : 0 ≤ token.span.start ∧ token.span.stop ≤ text.length
  excerpt : token.span.excerpt text = token.text
  belongs : token.text.toList ∈ token.lexeme.language
  solid : ∀ c ∈ token.text.toList, Text.isBlank c = false
  longest : token.lexeme = .numeral ∨ token.lexeme = .name → ∀ stop : Int, stop ≤ text.length →
    ({ token.span with stop := stop }.excerpt text).toList ∈ token.lexeme.language →
      stop ≤ token.span.stop

/-- The part of a text between two places falls into tokens and blanks. -/
structure Partitions (text : String) (source : Option String) (start stop : Nat)
    (tokens : List Token) : Prop where
  stands : ∀ token ∈ tokens, token.StandsIn text source
  within : ∀ token ∈ tokens, start ≤ token.span.start ∧ token.span.stop ≤ stop
  apart : tokens.Pairwise fun token next => token.span.stop ≤ next.span.start
  between : ∀ place c, start ≤ place → place < stop → text.toList[place]? = some c →
    (∀ token ∈ tokens, ¬token.span.Contains place) → Text.isBlank c = true

/-- No blank and no token starts at a place of a text. -/
def Halts (text : String) (place : Nat) : Prop :=
  ∀ lexeme count, (text.toList.drop place).take count ∉ Lexeme.language lexeme

/-- The text can be cut up to a place, but not there. -/
def StuckAt (text : String) (source : Option String) (place : Nat) : Prop :=
  place < text.length ∧ (∃ tokens, Partitions text source 0 place tokens) ∧ Halts text place

/-- The token of a class that is so long and starts at a place of a text. -/
def cut (text : String) (source : Option String) (lexeme : Lexeme) (start length : Nat) : Token :=
  ⟨lexeme, String.ofList ((text.toList.drop start).take length), ⟨start, start + length, source⟩⟩

theorem toList_excerpt_cut (text : String) (source : Option String) (lexeme : Lexeme)
    (start length : Nat) :
    ((cut text source lexeme start length).span.excerpt text).toList =
      (text.toList.drop start).take length := by
  rw [cut, Span.toList_excerpt]
  congr 1
  omega

theorem standsIn_cut {lexeme : Lexeme} {start length : Nat}
    (leads : Lexeme.Leads (text.toList.drop start) lexeme length) (other : lexeme ≠ .blank) :
    (cut text source lexeme start length).StandsIn text source := by
  have size : text.toList.length = text.length := String.length_toList
  have positive := leads.length_pos
  have fits := leads.length_le
  rw [List.length_drop] at fits
  have chars := toList_excerpt_cut text source lexeme start length
  refine ⟨rfl, ?_, ⟨Int.natCast_nonneg start, ?_⟩, ?_, ?_, ?_, ?_⟩
  · simp only [cut]
    omega
  · simp only [cut]
    omega
  · rw [← String.ofList_toList (s := Span.excerpt _ text), chars]
    rfl
  · simpa [cut] using leads.mem_language
  · simpa [cut] using Lexeme.language_solid other _ leads.mem_language
  · intro _ stop inside further
    simp only [cut, Span.toList_excerpt] at further ⊢
    have count := (leads.longest (by rw [List.length_drop]; omega) further).2
    omega

theorem StandsIn.ne_blank {token : Token} (stands : token.StandsIn text source) :
    token.lexeme ≠ .blank := by
  intro blank
  have belongs := stands.belongs
  rw [blank] at belongs
  obtain ⟨c, member⟩ := List.exists_mem_of_ne_nil token.text.toList fun empty =>
    Lexeme.nil_notMem_language _ (empty ▸ belongs)
  cases (stands.solid c member).symm.trans (Lexeme.isBlank_of_mem_language belongs c member)

theorem StandsIn.exists_cut {token : Token} (stands : token.StandsIn text source) :
    ∃ lexeme start length, 0 < length ∧ token = cut text source lexeme start length := by
  have nonempty := stands.nonempty
  obtain ⟨start, begins⟩ := Int.eq_ofNat_of_zero_le stands.inside.1
  obtain ⟨length, ends⟩ : ∃ length : Nat, token.span.stop = start + length :=
    ⟨(token.span.stop - start).toNat, by omega⟩
  have place : token.span = ⟨token.span.start, token.span.stop, token.span.source⟩ := rfl
  rw [begins, ends, stands.source] at place
  have chars : token.text.toList = (text.toList.drop start).take length := by
    rw [← stands.excerpt, place]
    exact toList_excerpt_cut text source token.lexeme start length
  refine ⟨token.lexeme, start, length, by omega, ?_⟩
  rw [cut, ← place, ← chars, String.ofList_toList]

/-- What stands in a text is the lexeme at its place: it is no longer than that, and no shorter. -/
theorem StandsIn.exists_leads {token : Token} (stands : token.StandsIn text source) :
    ∃ lexeme start length, Lexeme.Leads (text.toList.drop start) lexeme length ∧
      lexeme ≠ .blank ∧ token = cut text source lexeme start length := by
  have size : text.toList.length = text.length := String.length_toList
  obtain ⟨lexeme, start, length, positive, rfl⟩ := stands.exists_cut
  have inside : (start : Int) + length ≤ text.length := stands.inside.2
  have belongs : (text.toList.drop start).take length ∈ lexeme.language := by
    simpa [cut] using stands.belongs
  obtain ⟨more, leads, enough⟩ := Lexeme.exists_leads_of_mem_language belongs
  have fits := leads.length_le
  rw [List.length_drop] at enough fits
  have covers (goesOn : lexeme = .numeral ∨ lexeme = .name) : more ≤ length := by
    have further := leads.mem_language
    rw [← toList_excerpt_cut text source lexeme] at further
    have bound : (start : Int) + more ≤ start + length :=
      stands.longest goesOn (start + more) (by omega) further
    omega
  have exact : more = length := by
    cases lexeme with
    | blank => exact absurd rfl stands.ne_blank
    | opening =>
      have single := leads.length_eq_one (.inl rfl)
      omega
    | closing =>
      have single := leads.length_eq_one (.inr rfl)
      omega
    | numeral =>
      have bound := covers (.inl rfl)
      omega
    | name =>
      have bound := covers (.inr rfl)
      omega
  rw [exact] at leads
  exact ⟨lexeme, start, length, leads, stands.ne_blank, rfl⟩

theorem StandsIn.not_isBlank {token : Token} (stands : token.StandsIn text source) {place : Nat}
    (inside : token.span.Contains place) {c : Char} (here : text.toList[place]? = some c) :
    Text.isBlank c = false := by
  obtain ⟨lexeme, start, length, leads, other, rfl⟩ := stands.exists_leads
  have begun : (start : Int) ≤ place := inside.1
  have going : (place : Int) < start + length := inside.2
  have member := mem_take_drop here (by omega : start ≤ place) (by omega : place < start + length)
  exact Lexeme.language_solid other _ leads.mem_language c member

theorem halts_iff (place : Nat) :
    Halts text place ↔ Lexeme.first? (text.toList.drop place) = none :=
  (Lexeme.first?_eq_none_iff _).symm

theorem halts_end (text : String) : Halts text text.length := by
  rw [halts_iff, List.drop_of_length_le (Nat.le_of_eq String.length_toList)]
  rfl

theorem isBlank_of_leads {start length : Nat}
    (leads : Lexeme.Leads (text.toList.drop start) .blank length) {place : Nat} {c : Char}
    (here : text.toList[place]? = some c) (begun : start ≤ place) (going : place < start + length) :
    Text.isBlank c = true :=
  Lexeme.isBlank_of_mem_language leads.mem_language c (mem_take_drop here begun going)

theorem exists_leads_of_isBlank {place : Nat} {c : Char} (here : text.toList[place]? = some c)
    (space : Text.isBlank c = true) :
    ∃ length, Lexeme.Leads (text.toList.drop place) .blank length := by
  obtain ⟨inside, same⟩ := List.getElem?_eq_some_iff.mp here
  rw [List.drop_eq_getElem_cons inside, same]
  exact ⟨_, .blank space⟩

/-- Where the text halts, no run of blanks goes on. -/
theorem Halts.behind_blanks {start length stop : Nat} (halts : Halts text stop)
    (leads : Lexeme.Leads (text.toList.drop start) .blank length) (begun : start ≤ stop) :
    start + length ≤ stop := by
  have size : text.toList.length = text.length := String.length_toList
  have fits := leads.length_le
  rw [List.length_drop] at fits
  have positive := leads.length_pos
  by_cases going : stop < start + length
  · obtain ⟨c, here⟩ := exists_getElem? (by omega : stop < text.length)
    obtain ⟨more, blank⟩ := exists_leads_of_isBlank here (isBlank_of_leads leads here begun going)
    exact absurd blank.mem_language (halts .blank more)
  · omega

namespace Partitions

variable {start stop : Nat} {tokens : List Token}

theorem of_nil (place : Nat) : Partitions text source place place [] where
  stands := by simp
  within := by simp
  apart := .nil
  between := by
    intro other c begun going
    omega

theorem eq_nil (parts : Partitions text source start start tokens) : tokens = [] := by
  apply List.eq_nil_iff_forall_not_mem.mpr
  intro token member
  have nonempty := (parts.stands token member).nonempty
  have within := parts.within token member
  omega

theorem blank_iff {length : Nat}
    (leads : Lexeme.Leads (text.toList.drop start) .blank length) :
    Partitions text source start stop tokens ↔
      Partitions text source (start + length) stop tokens := by
  have size : text.toList.length = text.length := String.length_toList
  constructor
  · intro parts
    refine ⟨parts.stands, ?_, parts.apart, ?_⟩
    · intro token member
      have stands := parts.stands token member
      have within := parts.within token member
      have nonempty := stands.nonempty
      have inside := stands.inside.2
      refine ⟨?_, within.2⟩
      obtain ⟨place, begins⟩ := Int.eq_ofNat_of_zero_le stands.inside.1
      by_cases early : place < start + length
      · obtain ⟨c, here⟩ := exists_getElem? (by omega : place < text.length)
        have space := isBlank_of_leads leads here (by omega) early
        have covered : token.span.Contains place := ⟨by omega, by omega⟩
        cases space.symm.trans (stands.not_isBlank covered here)
      · omega
    · intro place c begun going
      exact parts.between place c (by omega) going
  · intro parts
    refine ⟨parts.stands, ?_, parts.apart, ?_⟩
    · intro token member
      have within := parts.within token member
      exact ⟨by omega, within.2⟩
    · intro place c begun going here uncovered
      by_cases early : place < start + length
      · exact isBlank_of_leads leads here begun early
      · exact parts.between place c (by omega) going here uncovered

theorem cons {lexeme : Lexeme} {length : Nat}
    (leads : Lexeme.Leads (text.toList.drop start) lexeme length) (other : lexeme ≠ .blank)
    (begun : start + length ≤ stop)
    (later : Partitions text source (start + length) stop tokens) :
    Partitions text source start stop (cut text source lexeme start length :: tokens) where
  stands := List.forall_mem_cons.mpr ⟨standsIn_cut leads other, later.stands⟩
  within := by
    refine List.forall_mem_cons.mpr ⟨⟨Int.le_refl _, ?_⟩, ?_⟩
    · simp only [cut]
      omega
    · intro token member
      have within := later.within token member
      exact ⟨by omega, within.2⟩
  apart := by
    refine .cons ?_ later.apart
    intro token member
    have within := (later.within token member).1
    simp only [cut]
    omega
  between := by
    intro place c begins going here uncovered
    obtain ⟨first, others⟩ := List.forall_mem_cons.mp uncovered
    have behind : start + length ≤ place := by
      simp only [Span.Contains, cut] at first
      omega
    exact later.between place c behind going here others

theorem exists_cons (parts : Partitions text source start stop tokens) (going : start < stop)
    (inside : stop ≤ text.length)
    (solid : ∀ length, ¬Lexeme.Leads (text.toList.drop start) .blank length) :
    ∃ lexeme length later, Lexeme.Leads (text.toList.drop start) lexeme length ∧
      tokens = cut text source lexeme start length :: later ∧ start + length ≤ stop ∧
      Partitions text source (start + length) stop later := by
  obtain ⟨c, here⟩ := exists_getElem? (by omega : start < text.length)
  obtain ⟨token, member, covers⟩ : ∃ token ∈ tokens, token.span.Contains start := by
    apply Classical.byContradiction
    intro uncovered
    have space := parts.between start c (Nat.le_refl _) going here fun token member covers =>
      uncovered ⟨token, member, covers⟩
    obtain ⟨length, blank⟩ := exists_leads_of_isBlank here space
    exact solid length blank
  obtain ⟨lexeme, place, length, leads, other, same⟩ := (parts.stands token member).exists_leads
  have within := parts.within token member
  obtain ⟨before, after, rfl⟩ := List.append_of_mem member
  -- The token starts right here, so that no other one can stand in front of it.
  have begins : place = start := by
    have first := within.1
    have last := covers.1
    rw [same, cut] at first last
    simp only at first last
    omega
  subst begins
  have none : before = [] := by
    apply List.eq_nil_iff_forall_not_mem.mpr
    intro earlier listed
    have nonempty := (parts.stands earlier (by simp [listed])).nonempty
    have bound := (parts.within earlier (by simp [listed])).1
    have apart := (List.pairwise_append.mp parts.apart).2.2 earlier listed token (by simp)
    have last := covers.1
    omega
  subst none
  have fits : place + length ≤ stop := by
    have last := within.2
    rw [same, cut] at last
    simp only at last
    omega
  refine ⟨lexeme, length, after, leads, by rw [same]; rfl, fits, ?_, ?_, ?_, ?_⟩
  · intro next listed
    exact parts.stands next (by simp [listed])
  · intro next listed
    have apart := (List.pairwise_cons.mp parts.apart).1 next listed
    rw [same, cut] at apart
    simp only at apart
    exact ⟨by omega, (parts.within next (by simp [listed])).2⟩
  · exact (List.pairwise_cons.mp parts.apart).2
  · intro next d begun onward found uncovered
    apply parts.between next d (by omega) onward found
    refine List.forall_mem_cons.mpr ⟨?_, uncovered⟩
    intro contained
    have bound := contained.2
    rw [same, cut] at bound
    simp only at bound
    omega

theorem eq_of_halts (parts : Partitions text source start stop tokens) (halts : Halts text start)
    (begun : start ≤ stop) (inside : stop ≤ text.length) : stop = start := by
  by_cases going : start < stop
  · have solid (length : Nat) : ¬Lexeme.Leads (text.toList.drop start) .blank length :=
      fun blank => halts .blank length blank.mem_language
    obtain ⟨lexeme, length, -, leads, -⟩ := parts.exists_cons going inside solid
    exact absurd leads.mem_language (halts lexeme length)
  · omega

theorem eq_cons (parts : Partitions text source start stop tokens) {lexeme : Lexeme}
    {length : Nat} (leads : Lexeme.Leads (text.toList.drop start) lexeme length)
    (other : lexeme ≠ .blank) (going : start < stop) (inside : stop ≤ text.length) :
    ∃ later, tokens = cut text source lexeme start length :: later ∧ start + length ≤ stop ∧
      Partitions text source (start + length) stop later := by
  have solid (length : Nat) : ¬Lexeme.Leads (text.toList.drop start) .blank length :=
    fun blank => other (leads.unique blank).1.symm
  obtain ⟨first, count, later, again, rest⟩ := parts.exists_cons going inside solid
  obtain ⟨rfl, rfl⟩ := leads.unique again
  exact ⟨later, rest⟩

/-- The text in front of a place where it halts is cut as the tokens say, and then the cutting ends
there. -/
theorem scan (parts : Partitions text source start stop tokens) (halts : Halts text stop)
    (begun : start ≤ stop) (inside : stop ≤ text.length) (earlier : List Token) :
    Token.scan source start (text.toList.drop start) earlier =
      if stop < text.length then .error stop else .ok (earlier.reverse ++ tokens) := by
  have size : text.toList.length = text.length := String.length_toList
  generalize behind : text.toList.drop start = rest
  fun_induction Token.scan source start rest earlier generalizing tokens with
  | case1 start rest earlier absent empty =>
    subst behind
    obtain rfl := parts.eq_of_halts ((halts_iff start).mpr absent) begun inside
    obtain rfl := parts.eq_nil
    rw [List.isEmpty_iff, List.drop_eq_nil_iff] at empty
    rw [if_neg (by omega), List.append_nil]
  | case2 start rest earlier absent more =>
    subst behind
    obtain rfl := parts.eq_of_halts ((halts_iff start).mpr absent) begun inside
    rw [List.isEmpty_iff, List.drop_eq_nil_iff] at more
    rw [if_pos (by omega)]
  | case3 start rest earlier lexeme length found token =>
    rename_i ih
    subst behind
    have leads := (Lexeme.first?_eq_some_iff ..).mp found
    have going : start < stop := by
      by_cases same : start = stop
      · subst same
        cases ((halts_iff start).mp halts).symm.trans found
      · omega
    by_cases blank : lexeme = .blank
    · subst blank
      have later := (blank_iff leads).mp parts
      have onward := ih later (halts.behind_blanks leads begun) List.drop_drop.symm
      rw [dif_pos rfl] at onward
      rw [if_pos rfl, onward]
    · obtain ⟨later, rfl, fits, rest⟩ := parts.eq_cons leads blank going inside
      have onward := ih rest fits List.drop_drop.symm
      rw [dif_neg blank] at onward
      rw [if_neg blank, onward, List.reverse_cons, List.append_assoc]
      rfl

end Partitions

/-- From each place on, a text falls into tokens and blanks up to a place where it halts. -/
theorem exists_partitions (text : String) (source : Option String) {start : Nat}
    (inside : start ≤ text.length) :
    ∃ stop tokens, start ≤ stop ∧ stop ≤ text.length ∧ Halts text stop ∧
      Partitions text source start stop tokens := by
  have size : text.toList.length = text.length := String.length_toList
  induction left : text.length - start using Nat.strong_induction_on generalizing start with
  | h left ih =>
    cases found : Lexeme.first? (text.toList.drop start) with
    | none => exact ⟨start, [], Nat.le_refl _, inside, (halts_iff start).mpr found, .of_nil start⟩
    | some lead =>
      obtain ⟨lexeme, length⟩ := lead
      have leads := (Lexeme.first?_eq_some_iff ..).mp found
      have positive := leads.length_pos
      have fits := leads.length_le
      rw [List.length_drop] at fits
      obtain ⟨stop, tokens, begun, within, halts, later⟩ :=
        ih (text.length - (start + length)) (by omega) (by omega) rfl
      by_cases blank : lexeme = .blank
      · subst blank
        exact ⟨stop, tokens, by omega, within, halts, (Partitions.blank_iff leads).mpr later⟩
      · exact ⟨stop, _, by omega, within, halts, later.cons leads blank begun⟩

/-- Up to the place where it halts a text is cut as the tokens say; what is left decides whether the
cutting fails there. -/
theorem Partitions.ofText {stop : Nat} {tokens : List Token}
    (parts : Partitions text source 0 stop tokens) (halts : Halts text stop)
    (inside : stop ≤ text.length) :
    Token.ofText text source =
      if stop < text.length then
        .error (.malformed text ⟨stop, stop + 1, source⟩ (.strayCharacter stop))
      else .ok tokens := by
  have run := parts.scan halts (Nat.zero_le stop) inside []
  rw [List.drop_zero] at run
  rw [Token.ofText, run]
  by_cases stuck : stop < text.length
  · rw [if_pos stuck, if_pos stuck]
  · rw [if_neg stuck, if_neg stuck]
    rfl

theorem Partitions.ofText_eq_ok {tokens : List Token}
    (parts : Partitions text source 0 text.length tokens) :
    Token.ofText text source = .ok tokens := by
  rw [parts.ofText (halts_end text) (Nat.le_refl _), if_neg (Nat.lt_irrefl _)]

theorem StuckAt.ofText_eq_error {place : Nat} (stuck : StuckAt text source place) :
    Token.ofText text source =
      .error (.malformed text ⟨place, place + 1, source⟩ (.strayCharacter place)) := by
  obtain ⟨inside, ⟨tokens, parts⟩, halts⟩ := stuck
  rw [parts.ofText halts (Nat.le_of_lt inside), if_pos inside]

/-- A text falls into tokens and blanks as a whole, or it is stuck somewhere. -/
theorem partitions_or_stuckAt (text : String) (source : Option String) :
    (∃ tokens, Partitions text source 0 text.length tokens) ∨
      ∃ place, StuckAt text source place := by
  obtain ⟨stop, tokens, -, inside, halts, parts⟩ :=
    exists_partitions text source (Nat.zero_le _)
  by_cases stuck : stop < text.length
  · exact .inr ⟨stop, stuck, ⟨tokens, parts⟩, halts⟩
  · obtain rfl := Nat.le_antisymm inside (Nat.le_of_not_lt stuck)
    exact .inl ⟨tokens, parts⟩

theorem ofText_eq_ok_iff_partitions (text : String) (source : Option String)
    (tokens : List Token) :
    ofText text source = .ok tokens ↔ Partitions text source 0 text.length tokens := by
  constructor
  · intro given
    rcases partitions_or_stuckAt text source with ⟨others, parts⟩ | ⟨place, stuck⟩
    · cases parts.ofText_eq_ok.symm.trans given
      exact parts
    · cases stuck.ofText_eq_error.symm.trans given
  · exact Partitions.ofText_eq_ok

theorem ofText_eq_error_iff (text : String) (source : Option String) (error : Error) :
    ofText text source = .error error ↔
      ∃ place : Nat, StuckAt text source place ∧
        error = .malformed text ⟨place, place + 1, source⟩ (.strayCharacter place) := by
  constructor
  · intro failed
    rcases partitions_or_stuckAt text source with ⟨others, parts⟩ | ⟨place, stuck⟩
    · cases parts.ofText_eq_ok.symm.trans failed
    · cases stuck.ofText_eq_error.symm.trans failed
      exact ⟨place, stuck, rfl⟩
  · intro stuck
    obtain ⟨place, stuck, rfl⟩ := stuck
    exact stuck.ofText_eq_error

/-- A text has the tokens into which it falls, and these are determined; otherwise it is stuck at
just one place, which the error names. -/
theorem ofText_lossless (text : String) (source : Option String) :
    (∀ tokens, ofText text source = .ok tokens ↔ Partitions text source 0 text.length tokens) ∧
      (∀ tokens others, Partitions text source 0 text.length tokens →
        Partitions text source 0 text.length others → others = tokens) ∧
      (∀ place : Nat, ofText text source =
          .error (.malformed text ⟨place, place + 1, source⟩ (.strayCharacter place)) ↔
        StuckAt text source place) ∧
      (∀ place other, StuckAt text source place → StuckAt text source other → other = place) ∧
      ((∀ place, ¬StuckAt text source place) → ∃ tokens, ofText text source = .ok tokens) := by
  refine ⟨ofText_eq_ok_iff_partitions text source, ?_, ?_, ?_, ?_⟩
  · intro tokens others parts again
    cases parts.ofText_eq_ok.symm.trans again.ofText_eq_ok
    rfl
  · intro place
    constructor
    · intro failed
      obtain ⟨other, stuck, same⟩ := (ofText_eq_error_iff ..).mp failed
      cases same
      exact stuck
    · exact StuckAt.ofText_eq_error
  · intro place other stuck again
    cases stuck.ofText_eq_error.symm.trans again.ofText_eq_error
    rfl
  · intro free
    rcases partitions_or_stuckAt text source with ⟨tokens, parts⟩ | ⟨place, stuck⟩
    · exact ⟨tokens, parts.ofText_eq_ok⟩
    · exact absurd stuck (free place)

/-- A dot that no name follows is left over; a dot that a name follows is not. -/
theorem ofText_lossless_dangling :
    (∀ place, StuckAt "a.b. c" none place ↔ place = 3) ∧
      Partitions "a.b c" none 0 5
        [⟨.name, "a.b", ⟨0, 3, none⟩⟩, ⟨.name, "c", ⟨4, 5, none⟩⟩] := by
  have dangling : scan none 0 "a.b. c".toList [] = .error 3 := by decide +kernel
  have whole : scan none 0 "a.b c".toList [] =
      .ok [⟨.name, "a.b", ⟨0, 3, none⟩⟩, ⟨.name, "c", ⟨4, 5, none⟩⟩] := by decide +kernel
  constructor
  · obtain ⟨-, -, fails, unique, -⟩ := ofText_lossless "a.b. c" none
    have stuck := (fails 3).mp (by rw [ofText, dangling])
    intro place
    constructor
    · exact unique 3 place stuck
    · rintro rfl
      exact stuck
  · apply ((ofText_lossless "a.b c" none).1 _).mp
    rw [ofText, whole]

end Token

end UnaryNumeral
