import AttributeStore.Proofs.Decimal.Written
import AttributeStore.Sql.Clause
import Mathlib.Data.List.TakeWhile

/-! Texts and their tokens. A text is cut from its front; what a piece of it becomes depends on nothing behind the
piece but the next character. -/
namespace AttributeStore.Sql

/-- The text is cut into these tokens, wherever in a larger text it stands. -/
def Cuts (s : List Char) (tokens : List Token) : Prop :=
  ∀ fuel p afterWord, s.length ≤ fuel →
    ∃ lexemes, Lexer.lexFrom fuel p afterWord s = .ok lexemes ∧ lexemes.map (·.token) = tokens

/-- What follows does not go on with a name or a number. -/
def Ends (s : List Char) : Prop := ∀ c ∈ s.head?, c = ' ' ∨ c = '(' ∨ c = ')' ∨ c = ','

/-- A bare name: a letter or an underscore, and what may go on with it. -/
def IsWord (s : String) : Prop :=
  s.toList.head?.any (fun c => Text.isAlphabetic c || c = '_') ∧ s.toList.tail.all Lexer.continuesName

instance (s : String) : Decidable (IsWord s) := inferInstanceAs (Decidable (_ ∧ _))

theorem IsWord.split {s : String} (word : IsWord s) :
    ∃ c rest, s.toList = c :: rest ∧ (Text.isAlphabetic c || c = '_') ∧ ∀ d ∈ rest, Lexer.continuesName d := by
  obtain ⟨begins, continues⟩ := word
  cases split : s.toList with
  | nil => simp [split] at begins
  | cons c rest =>
    rw [split] at begins continues
    exact ⟨c, rest, rfl, begins, List.all_eq_true.mp continues⟩

theorem Ends.nil : Ends [] := by simp [Ends]

theorem Ends.cons (ends : c = ' ' ∨ c = '(' ∨ c = ')' ∨ c = ',') : Ends (c :: rest) := by
  simpa [Ends] using ends

theorem Ends.unquoted {rest : List Char} (ends : Ends rest) : rest.head? ≠ some '\'' := by
  intro quote
  simpa using ends '\'' quote

theorem Ends.refuses {rest : List Char} (ends : Ends rest) (p : Char → Bool)
    (refused : p ' ' = false ∧ p '(' = false ∧ p ')' = false ∧ p ',' = false) : ∀ c ∈ rest.head?, p c = false := by
  intro c first
  obtain ⟨space, opening, closing, comma⟩ := refused
  rcases ends c first with rfl | rfl | rfl | rfl <;> assumption

/-- A run of characters of one kind is cut off as a whole where a character of another kind stands behind it. -/
theorem span_append {p : Char → Bool} {s rest : List Char} (inside : ∀ c ∈ s, p c)
    (stops : ∀ c ∈ rest.head?, p c = false) : (s ++ rest).takeWhile p = s ∧ (s ++ rest).dropWhile p = rest := by
  rw [List.takeWhile_append_of_pos inside, List.dropWhile_append_of_pos inside]
  cases rest with
  | nil => simp
  | cons c rest => simp [stops c rfl]

/-- What follows does not go on with a name, nor with a literal that a name is the mark of. -/
def EndsName (s : List Char) : Prop :=
  ∀ c ∈ s.head?, Lexer.continuesName c = false ∧ c ≠ '\'' ∧ c ≠ '"' ∧ c ≠ '&'

theorem EndsName.cons (ends : Lexer.continuesName c = false ∧ c ≠ '\'' ∧ c ≠ '"' ∧ c ≠ '&') : EndsName (c :: rest) := by
  simpa [EndsName] using ends

theorem Ends.name (ends : Ends rest) : EndsName rest := by
  intro c first
  rcases ends c first with rfl | rfl | rfl | rfl <;> decide

namespace Lexer

theorem isAlphabetic_digit {c : Char} (digit : Text.isDigit c) : Text.isAlphabetic c = false := by
  simp only [Text.isDigit, Bool.and_eq_true, decide_eq_true_eq, Char.le_def, UInt32.le_iff_toNat_le] at digit
  have high : c.toNat ≤ 57 := digit.2
  have ascii : c.toNat < 128 := by omega
  simp only [Text.isAlphabetic, ascii, if_true, Char.le_def, UInt32.le_iff_toNat_le]
  have small : ¬97 ≤ c.toNat := by omega
  have capital : ¬65 ≤ c.toNat := by omega
  simp [small, capital]

/-- A letter begins a name, unless it marks the quote behind it. -/
theorem cut_name {c : Char} (afterWord : Bool) (rest : List Char) (begins : Text.isAlphabetic c || c = '_')
    (unquoted : ∀ d ∈ rest.head?, d ≠ '\'' ∧ d ≠ '"' ∧ d ≠ '&') : cut afterWord c rest = restOfName [c] rest := by
  have other (d : Char) (mark : (Text.isAlphabetic d || d = '_') = false) : c ≠ d := by
    rintro rfl
    rw [mark] at begins
    cases begins
  unfold cut
  split
  case h_42 =>
    have digit : Text.isDigit c = false := by
      by_contra digit
      rw [Bool.not_eq_false] at digit
      rw [isAlphabetic_digit digit, Bool.false_or, decide_eq_true_eq] at begins
      subst begins
      cases digit
    have starts : startsName c := by
      rw [Bool.or_eq_true] at begins
      rcases begins with letter | underscore
      · simp [startsName, letter]
      · simp [startsName, of_decide_eq_true underscore]
    simp [digit, other '.' (by decide), starts]
  all_goals first
    | exact absurd rfl (other _ (by decide))
    | exact absurd rfl (unquoted _ rfl).1
    | exact absurd rfl (unquoted _ rfl).2.1
    | exact absurd rfl (unquoted _ rfl).2.2

theorem cut_digit {c : Char} (afterWord : Bool) (rest : List Char) (digit : Text.isDigit c) :
    cut afterWord c rest = number afterWord (c :: rest) := by
  have other (d : Char) (mark : Text.isDigit d = false) : c ≠ d := by
    rintro rfl
    rw [mark] at digit
    cases digit
  unfold cut
  split
  case h_42 => simp [digit]
  all_goals exact absurd rfl (other _ (by decide))

theorem cut_minus {rest : List Char} (afterWord : Bool) (plain : ∀ c ∈ rest.head?, c ≠ '-' ∧ c ≠ '>') :
    cut afterWord '-' rest = .token (.symbol "-") rest := by
  cases rest with
  | nil => rfl
  | cons c rest =>
    obtain ⟨minus, arrow⟩ := plain c (by simp)
    have alone : symbol? ('-' :: c :: rest) = some ("-", c :: rest) := by
      simp [symbol?, symbols, arrow.symm, List.findSome?]
      rfl
    unfold cut
    split <;> simp_all
    rfl

theorem exponent_ends {rest : List Char} (ends : Ends rest) : exponent rest = ([], rest) := by
  cases rest with
  | nil => rfl
  | cons c tail => rcases ends c rfl with rfl | rfl | rfl | rfl <;> rfl

theorem number_whole {digits rest : List Char} (afterWord : Bool) (whole : Decimal.IsDigits digits)
    (ends : Ends rest) :
    number afterWord (digits ++ rest) = .token (.number (String.ofList digits) false) rest := by
  have head : ∀ c tail, rest = c :: tail → c ≠ '.' ∧ c ≠ 'x' ∧ c ≠ 'L' := by
    rintro c tail rfl
    rcases ends c rfl with rfl | rfl | rfl | rfl <;> decide
  have stops := ends.refuses Text.isDigit (by decide)
  obtain ⟨taken, left⟩ := span_append whole.digits stops
  obtain ⟨none, same⟩ : rest.takeWhile Text.isDigit = [] ∧ rest.dropWhile Text.isDigit = rest :=
    span_append (s := []) nofun stops
  have written : digits ≠ ['.'] := by simpa using whole.append_ne_period [] []
  unfold number
  split
  case h_1 period => exact absurd period (whole.append_ne_period _ _)
  case h_2 =>
    simp only [taken, left]
    split
    case h_1 => exact absurd rfl (head _ _ rfl).2.1
    case h_2 =>
      split
      case h_1 => exact absurd rfl (head _ _ rfl).1
      case h_2 =>
        simp only [none, same, List.append_nil, exponent_ends ends, if_neg written]
        split
        case h_1 => exact absurd rfl (head _ _ rfl).2.2
        case h_2 => rfl

theorem number_pointed {digits fraction rest : List Char} (afterWord : Bool) (whole : Decimal.IsDigits digits)
    (behindPoint : Decimal.IsDigits fraction) (ends : Ends rest) :
    number afterWord (digits ++ '.' :: (fraction ++ rest)) =
      .token (.number (String.ofList (digits ++ '.' :: fraction)) false) rest := by
  have stops : ∀ c ∈ ('.' :: (fraction ++ rest)).head?, Text.isDigit c = false := by simp; rfl
  obtain ⟨taken, left⟩ := span_append whole.digits stops
  obtain ⟨takenBehind, leftBehind⟩ := span_append behindPoint.digits (ends.refuses Text.isDigit (by decide))
  have written : digits ++ ['.'] ++ fraction ≠ ['.'] := by
    rw [List.append_assoc]
    exact whole.append_ne_period _ _
  unfold number
  split
  case h_1 period => exact absurd period (whole.append_ne_period _ _)
  case h_2 =>
    simp only [taken, left]
    split
    case h_1 hex _ => cases hex
    case h_2 =>
      simp only [takenBehind, leftBehind, exponent_ends ends, if_neg written]
      split
      case h_1 => rcases ends _ rfl with same | same | same | same <;> cases same
      case h_2 => simp

/-- Digits, and perhaps a point with digits behind it, are a number by themselves. -/
theorem number_form {f : Decimal.Form} {rest : List Char} (afterWord : Bool) (proper : f.Proper)
    (positive : f.negative = false) (plain : f.power = none) (ends : Ends rest) :
    number afterWord (f.text ++ rest) = .token (.number (String.ofList f.text) false) rest := by
  obtain ⟨negative, digits, fraction, power⟩ := f
  obtain ⟨⟨whole, -⟩, behindPoint, -⟩ := proper
  dsimp only at positive plain whole behindPoint
  subst positive plain
  cases fraction with
  | none =>
    have text : (⟨false, digits, none, none⟩ : Decimal.Form).text = digits := by
      simp [Decimal.Form.text, Decimal.Form.fractionText, Decimal.Form.powerText]
    rw [text]
    exact number_whole afterWord whole ends
  | some fraction =>
    have text : (⟨false, digits, some fraction, none⟩ : Decimal.Form).text = digits ++ '.' :: fraction := by
      simp [Decimal.Form.text, Decimal.Form.fractionText, Decimal.Form.powerText]
    rw [text, List.append_assoc, List.cons_append]
    exact number_pointed afterWord whole (behindPoint fraction rfl) ends

theorem cut_quote (afterWord : Bool) (rest : List Char) : cut afterWord '\'' rest =
    (quoted '\'' rest).elim (.fault "Unterminated string literal" 0)
      fun split => .token (.text (String.ofList split.1)) split.2 := by
  delta cut
  cases quoted '\'' rest <;> rfl

/-- Two quotes inside, none behind: the payload of a quoted text. -/
theorem quoted_escape (payload rest : List Char) (ends : rest.head? ≠ some '\'') :
    quoted '\'' (payload.flatMap (fun c => if c = '\'' then ['\'', '\''] else [c]) ++ '\'' :: rest) =
      some (payload, rest) := by
  induction payload with
  | nil =>
    cases rest with
    | nil => rfl
    | cons c rest =>
      have other : c ≠ '\'' := by simpa using ends
      simp [quoted, other]
  | cons c payload ih =>
    by_cases quote : c = '\''
    · simp [quote, quoted, ih]
    · simp only [List.flatMap_cons, quote, if_false, List.cons_append, List.nil_append]
      generalize payload.flatMap _ ++ _ = more at ih
      cases more with
      | nil => simp [quoted] at ih
      | cons d more => simp [quoted, quote, ih]

end Lexer

open Lexer

/-- The front of a text is cut into these tokens, and the lexer goes on with what is left. -/
def Leads (s : List Char) (tokens : List Token) (left : List Char) : Prop :=
  ∀ fuel p afterWord, s.length ≤ fuel → ∃ fuel' p' afterWord' lexemes, left.length ≤ fuel' ∧
    lexemes.map (·.token) = tokens ∧
    Lexer.lexFrom fuel p afterWord s = (Lexer.lexFrom fuel' p' afterWord' left).map (lexemes ++ ·)

theorem Leads.trans {s middle left : List Char} {tokens more : List Token} (first : Leads s tokens middle)
    (second : Leads middle more left) : Leads s (tokens ++ more) left := by
  intro fuel p afterWord enough
  obtain ⟨_, _, _, lexemes, enough, same, run⟩ := first fuel p afterWord enough
  obtain ⟨fuel', p', afterWord', lexemes', enough', same', run'⟩ := second _ _ _ enough
  refine ⟨fuel', p', afterWord', lexemes ++ lexemes', enough', by simp [same, same'], ?_⟩
  rw [run, run']
  cases Lexer.lexFrom fuel' p' afterWord' left <;> simp [Except.map]

theorem Leads.token {c : Char} {rest left : List Char} {t : Token}
    (cut : ∀ afterWord, Lexer.cut afterWord c rest = .token t left) (shorter : left.length ≤ rest.length) :
    Leads (c :: rest) [t] left := by
  intro fuel p afterWord enough
  obtain ⟨fuel, rfl⟩ : ∃ n, fuel = n + 1 := ⟨fuel - 1, by simp at enough; omega⟩
  have left : left.length ≤ fuel := by simp at enough; omega
  simp only [lexFrom, cut]
  exact ⟨fuel, _, _, [⟨t, some p⟩], left, rfl, (map_eq_pure_bind ((⟨t, some p⟩ : Lexeme) :: ·) _).symm⟩

theorem Leads.blank {c : Char} {rest left : List Char} (cut : ∀ afterWord, Lexer.cut afterWord c rest = .blank left)
    (shorter : left.length ≤ rest.length) : Leads (c :: rest) [] left := by
  intro fuel p afterWord enough
  obtain ⟨fuel, rfl⟩ : ∃ n, fuel = n + 1 := ⟨fuel - 1, by simp at enough; omega⟩
  have left : left.length ≤ fuel := by simp at enough; omega
  simp only [lexFrom, cut]
  exact ⟨fuel, _, _, [], left, rfl, (id_map _).symm⟩

theorem Leads.space (rest : List Char) : Leads (' ' :: rest) [] rest := Leads.blank (fun _ => rfl) le_rfl

theorem Leads.word {s : String} {rest : List Char} (word : IsWord s) (ends : EndsName rest) :
    Leads (s.toList ++ rest) [.word s] rest := by
  obtain ⟨c, name, split, begins, continues⟩ := word.split
  obtain ⟨taken, left⟩ := span_append continues fun c first => (ends c first).1
  rw [split, List.cons_append]
  refine Leads.token (fun afterWord => ?_) (by simp)
  rw [cut_name afterWord _ begins, restOfName, taken, left, List.singleton_append, ← split, String.ofList_toList]
  intro d first
  cases name with
  | nil => exact (ends d first).2
  | cons e name =>
    obtain rfl : e = d := by simpa using first
    have continued := continues e (by simp)
    refine ⟨?_, ?_, ?_⟩ <;> rintro rfl <;> exact absurd continued (by decide)

theorem Cuts.nil : Cuts [] [] := fun fuel p afterWord _ => ⟨[], by cases fuel <;> rfl, rfl⟩

theorem Leads.cuts {s left : List Char} {tokens more : List Token} (leads : Leads s tokens left)
    (cuts : Cuts left more) : Cuts s (tokens ++ more) := by
  intro fuel p afterWord enough
  obtain ⟨fuel', p', afterWord', lexemes, enough, same, run⟩ := leads fuel p afterWord enough
  obtain ⟨lexemes', run', same'⟩ := cuts fuel' p' afterWord' enough
  exact ⟨lexemes ++ lexemes', by rw [run, run']; rfl, by simp [same, same']⟩

theorem Cuts.cons {c : Char} {rest left : List Char} {t : Token} {tokens : List Token}
    (cut : ∀ afterWord, Lexer.cut afterWord c rest = .token t left) (shorter : left.length ≤ rest.length)
    (more : Cuts left tokens) : Cuts (c :: rest) (t :: tokens) :=
  (Leads.token cut shorter).cuts more

theorem Cuts.space {rest : List Char} {tokens : List Token} (more : Cuts rest tokens) : Cuts (' ' :: rest) tokens :=
  (Leads.space rest).cuts more

theorem Cuts.word {s : String} {rest : List Char} {tokens : List Token} (word : IsWord s) (ends : Ends rest)
    (more : Cuts rest tokens) : Cuts (s.toList ++ rest) (.word s :: tokens) :=
  (Leads.word word ends.name).cuts more

theorem Cuts.number {f : Decimal.Form} {rest : List Char} {tokens : List Token} (proper : f.Proper)
    (positive : f.negative = false) (plain : f.power = none) (ends : Ends rest) (more : Cuts rest tokens) :
    Cuts (f.text ++ rest) (.number (String.ofList f.text) false :: tokens) := by
  obtain ⟨d, tail, split⟩ := List.exists_cons_of_ne_nil proper.whole.nonempty
  have begins : ∃ left, f.text = d :: left := by
    rw [Decimal.Form.text, positive, split]
    exact ⟨_, rfl⟩
  obtain ⟨left, begins⟩ := begins
  have cut (afterWord : Bool) : Lexer.cut afterWord d (left ++ rest) =
      .token (.number (String.ofList f.text) false) rest := by
    rw [cut_digit afterWord _ (proper.whole.digits d (split ▸ List.mem_cons_self)), ← List.cons_append, ← begins]
    exact number_form afterWord proper positive plain ends
  have cuts := Cuts.cons cut (by simp) more
  rwa [← List.cons_append, ← begins] at cuts

theorem Cuts.minus {rest : List Char} {tokens : List Token} (plain : ∀ c ∈ rest.head?, c ≠ '-' ∧ c ≠ '>')
    (more : Cuts rest tokens) : Cuts ('-' :: rest) (.symbol "-" :: tokens) :=
  Cuts.cons (fun afterWord => cut_minus afterWord plain) le_rfl more

theorem Cuts.text {payload : String} {rest : List Char} {tokens : List Token} (ends : Ends rest)
    (more : Cuts rest tokens) :
    Cuts ('\'' :: ((escape payload).toList ++ '\'' :: rest)) (.text payload :: tokens) := by
  refine Cuts.cons (fun afterWord => ?_) (by simp only [List.length_append, List.length_cons]; omega) more
  rw [escape, String.toList_ofList, cut_quote, quoted_escape payload.toList rest ends.unquoted, Option.elim_some,
    String.ofList_toList]

theorem Cuts.opening {rest : List Char} {tokens : List Token} (more : Cuts rest tokens) :
    Cuts ('(' :: rest) (.symbol "(" :: tokens) :=
  Cuts.cons (fun _ => rfl) le_rfl more

theorem Cuts.closing {rest : List Char} {tokens : List Token} (more : Cuts rest tokens) :
    Cuts (')' :: rest) (.symbol ")" :: tokens) :=
  Cuts.cons (fun _ => rfl) le_rfl more

theorem Cuts.comma {rest : List Char} {tokens : List Token} (more : Cuts rest tokens) :
    Cuts (',' :: rest) (.symbol "," :: tokens) :=
  Cuts.cons (fun _ => rfl) le_rfl more

/-- A comparison stands between blanks, and `!=` has another name as a token. -/
theorem Cuts.comparison {op : Operator} {rest : List Char} {tokens : List Token}
    (compares : op ≠ .like ∧ op ≠ .isIn) (more : Cuts (' ' :: rest) tokens) :
    Cuts (op.symbol.toList ++ ' ' :: rest) (.symbol (if op = .notEq then "<>" else op.symbol) :: tokens) := by
  cases op with
  | like => exact absurd rfl compares.1
  | isIn => exact absurd rfl compares.2
  | eq | notEq | lt | gt | ltEq | gtEq => exact Cuts.cons (fun _ => rfl) (by simp [Operator.symbol]; decide) more

/-- A text whose characters are cut into some tokens has these tokens. -/
theorem Cuts.lex {s : String} {tokens : List Token} (cuts : Cuts s.toList tokens) :
    ∃ lexemes, lex s = .ok lexemes ∧ lexemes.map (·.token) = tokens :=
  cuts s.length ⟨1, 1⟩ false (by rw [String.length_toList])

end AttributeStore.Sql
