import AttributeStore.Json.Token
import AttributeStore.Proofs.Decimal.Written

/-! Written JSON cut into tokens. A scalar is one token, and what a token is depends on nothing behind it but, for a
number, the next character. -/
namespace AttributeStore

/-- The number that a form writes. -/
def Decimal.Form.numeral (f : Decimal.Form) : Decimal.Numeral where
  negative := f.negative
  whole := f.whole
  fraction := f.fraction
  power := f.power.map fun (down, digits) => Json.powerOf down digits.reverse

namespace Json

/-- What follows does not go on with a number. -/
def Ends (s : List Char) : Prop := ∀ c ∈ s.head?, Text.isDigit c = false ∧ c ≠ '.' ∧ exponentMark c = false

theorem Ends.nil : Ends [] := by simp [Ends]

theorem Ends.cons {c : Char} {rest : List Char} (ends : Text.isDigit c = false ∧ c ≠ '.' ∧ exponentMark c = false) :
    Ends (c :: rest) := by simpa [Ends] using ends

theorem scanFrom_cons (state : Partial) (c : Char) (rest : List Char) :
    scanFrom state (c :: rest) = (step state c rest).1 ++ scanFrom (step state c rest).2 rest := rfl

theorem scan_space {c : Char} (space : isSpace c = true) (rest : List Char) :
    scanFrom .between (c :: rest) = scanFrom .between rest := by
  have passed : begin c = ([], .between) := by
    unfold begin
    rw [if_pos space]
  rw [scanFrom_cons, step, passed, List.nil_append]

/-! Numbers. -/

theorem digit_range {c : Char} (digit : Text.isDigit c = true) : 48 ≤ c.toNat ∧ c.toNat ≤ 57 := by
  simpa [Text.isDigit, Char.le_def, UInt32.le_iff_toNat_le] using digit

theorem begin_digit {c : Char} (digit : Text.isDigit c = true) : begin c = ([], .whole false [c]) := by
  obtain ⟨low, high⟩ := digit_range digit
  have other (d : Char) (outside : d.toNat < 48 ∨ 57 < d.toNat) : c ≠ d := by
    rintro rfl
    omega
  have space : isSpace c = false := by
    simp [isSpace, other ' ' (by decide), other '\n' (by decide), other '\t' (by decide), other '\r' (by decide)]
  unfold begin
  rw [space]
  simp only [Bool.false_eq_true, if_false]
  split
  case h_10 =>
    rw [if_neg (by omega), if_neg (by omega), if_pos digit]
  all_goals exact absurd rfl (other _ (by decide))

/-- A number ends where the text does not go on with it. -/
theorem scan_after (n : Decimal.Numeral) {state : Partial} {rest : List Char} (last : finish state = [.number n])
    (next : ∀ c more, rest = c :: more → step state c more = after n c) :
    scanFrom state rest = .number n :: scanFrom .between rest := by
  cases rest with
  | nil => exact last
  | cons c more =>
    rw [scanFrom_cons, next c more rfl]
    rfl

theorem scan_whole {negative : Bool} {done more rest : List Char} (begun : done ≠ [])
    (digits : ∀ c ∈ more, Text.isDigit c) (lead : more ≠ [] → done ≠ ['0']) :
    scanFrom (.whole negative done) (more ++ rest) = scanFrom (.whole negative (more.reverse ++ done)) rest := by
  induction more generalizing done with
  | nil => rfl
  | cons c more ih =>
    obtain ⟨d, done, rfl⟩ := List.exists_cons_of_ne_nil begun
    have taken : step (.whole negative (d :: done)) c (more ++ rest) = ([], .whole negative (c :: d :: done)) := by
      rw [step, if_pos (digits c (by simp)), if_neg (lead nofun)]
    rw [List.cons_append, scanFrom_cons, taken, List.nil_append,
      ih (List.cons_ne_nil c _) (fun e member => digits e (List.mem_cons_of_mem c member)) (by simp)]
    simp

theorem scan_fraction {negative : Bool} {whole done more rest : List Char} (digits : ∀ c ∈ more, Text.isDigit c) :
    scanFrom (.fraction negative whole done) (more ++ rest) =
      scanFrom (.fraction negative whole (more.reverse ++ done)) rest := by
  induction more generalizing done with
  | nil => rfl
  | cons c more ih =>
    have taken : step (.fraction negative whole done) c (more ++ rest) =
        ([], .fraction negative whole (c :: done)) := by
      rw [step, if_pos (digits c (by simp))]
    rw [List.cons_append, scanFrom_cons, taken, List.nil_append,
      ih fun e member => digits e (List.mem_cons_of_mem c member)]
    simp

theorem scan_power {negative down : Bool} {whole done more rest : List Char} {fraction : Option (List Char)}
    (digits : ∀ c ∈ more, Text.isDigit c) :
    scanFrom (.power negative whole fraction down done) (more ++ rest) =
      scanFrom (.power negative whole fraction down (more.reverse ++ done)) rest := by
  induction more generalizing done with
  | nil => rfl
  | cons c more ih =>
    have taken : step (.power negative whole fraction down done) c (more ++ rest) =
        ([], .power negative whole fraction down (c :: done)) := by
      rw [step, if_pos (digits c (by simp))]
    rw [List.cons_append, scanFrom_cons, taken, List.nil_append,
      ih fun e member => digits e (List.mem_cons_of_mem c member)]
    simp

/-- The sign and the digits of a power of ten. -/
theorem scan_mark {negative down : Bool} {whole digits rest : List Char} {fraction : Option (List Char)}
    (known : Decimal.IsDigits digits) (ends : Ends rest) :
    scanFrom (.mark negative whole fraction) ((if down then '-' else '+') :: (digits ++ rest)) =
      .number ⟨negative, whole, fraction, some (powerOf down digits.reverse)⟩ :: scanFrom .between rest := by
  obtain ⟨d, more, rfl⟩ := List.exists_cons_of_ne_nil known.nonempty
  have signed : step (.mark negative whole fraction) (if down then '-' else '+') (d :: more ++ rest) =
      ([], .markSign negative whole fraction down) := by cases down <;> rfl
  have first : step (.markSign negative whole fraction down) d (more ++ rest) =
      ([], .power negative whole fraction down [d]) := by
    rw [step, if_pos (known.digits d (by simp))]
  rw [scanFrom_cons, signed, List.nil_append, List.cons_append, scanFrom_cons, first, List.nil_append,
    scan_power fun c member => known.digits c (List.mem_cons_of_mem d member)]
  refine scan_after _ (by simp [finish]) fun c behind here => ?_
  obtain ⟨digit, -, -⟩ := ends c (by rw [here]; rfl)
  simp [step, digit]

/-- The power of a number, in a state that may stand at its end or go on with the mark of a power. -/
theorem scan_powerText {state : Partial} {f : Decimal.Form} {rest : List Char}
    (known : ∀ p ∈ f.power, Decimal.IsDigits p.2) (ends : Ends rest)
    (last : finish state = [.number { f.numeral with power := none }])
    (mark : ∀ more, step state 'e' more = ([], .mark f.negative f.whole f.fraction))
    (next : ∀ c more, Text.isDigit c = false → c ≠ '.' → exponentMark c = false →
      step state c more = after { f.numeral with power := none } c) :
    scanFrom state (f.powerText ++ rest) = .number f.numeral :: scanFrom .between rest := by
  obtain ⟨negative, whole, fraction, power⟩ := f
  cases power with
  | none =>
    simp only [Decimal.Form.powerText, Option.elim_none, List.nil_append]
    refine scan_after _ last fun c more here => ?_
    obtain ⟨digit, point, unmarked⟩ := ends c (by rw [here]; rfl)
    exact next c more digit point unmarked
  | some p =>
    obtain ⟨down, digits⟩ := p
    simp only [Decimal.Form.powerText, Option.elim_some, List.cons_append]
    rw [scanFrom_cons, mark, List.nil_append, scan_mark (known _ rfl) ends]
    rfl

theorem scan_point {negative : Bool} {whole s : List Char} (known : Decimal.IsDigits s) (rest : List Char) :
    scanFrom (.whole negative whole.reverse) ('.' :: s ++ rest) = scanFrom (.fraction negative whole s.reverse) rest := by
  obtain ⟨d, more, rfl⟩ := List.exists_cons_of_ne_nil known.nonempty
  have point : step (.whole negative whole.reverse) '.' (d :: more ++ rest) = ([], .point negative whole) := by
    simp [step, show Text.isDigit '.' = false from rfl]
  have first : step (.point negative whole) d (more ++ rest) = ([], .fraction negative whole [d]) := by
    rw [step, if_pos (known.digits d (by simp))]
  rw [List.cons_append, scanFrom_cons, point, List.nil_append, List.cons_append, scanFrom_cons, first,
    List.nil_append, scan_fraction fun c member => known.digits c (List.mem_cons_of_mem d member), List.reverse_cons]

/-- The fraction and the power of a number whose whole digits have been read. -/
theorem scan_tail {f : Decimal.Form} (proper : f.Proper) {rest : List Char} (ends : Ends rest) :
    scanFrom (.whole f.negative f.whole.reverse) (f.fractionText ++ (f.powerText ++ rest)) =
      .number f.numeral :: scanFrom .between rest := by
  have noDigit : Text.isDigit 'e' = false := rfl
  have mark : exponentMark 'e' = true := rfl
  cases fraction : f.fraction with
  | none =>
    simp only [Decimal.Form.fractionText, fraction, Option.elim_none, List.nil_append]
    refine scan_powerText proper.power ends ?_ ?_ ?_
    · simp [finish, Decimal.Form.numeral, fraction]
    · simp [step, noDigit, mark, fraction]
    · intro c more digit point unmarked
      simp [step, digit, point, unmarked, Decimal.Form.numeral, fraction]
  | some s =>
    simp only [Decimal.Form.fractionText, fraction, Option.elim_some]
    rw [scan_point (proper.fraction s fraction)]
    refine scan_powerText proper.power ends ?_ ?_ ?_
    · simp [finish, Decimal.Form.numeral, fraction]
    · simp [step, noDigit, mark, fraction]
    · intro c more digit point unmarked
      simp [step, digit, unmarked, Decimal.Form.numeral, fraction]

theorem scan_number {f : Decimal.Form} (proper : f.Proper) {rest : List Char} (ends : Ends rest) :
    scanFrom .between (f.text ++ rest) = .number f.numeral :: scanFrom .between rest := by
  obtain ⟨c, digits, split⟩ := List.exists_cons_of_ne_nil proper.whole.nonempty
  have all : ∀ d ∈ c :: digits, Text.isDigit d := split ▸ proper.whole.digits
  have lead : digits ≠ [] → [c] ≠ ['0'] := by
    rintro more zero
    obtain rfl : c = '0' := List.head_eq_of_cons_eq zero
    have alone := proper.whole.lead (by rw [split]; rfl)
    rw [split] at alone
    exact more (List.tail_eq_of_cons_eq alone)
  have begun : scanFrom .between (f.text ++ rest) =
      scanFrom (.whole f.negative [c]) (digits ++ (f.fractionText ++ (f.powerText ++ rest))) := by
    simp only [Decimal.Form.text, split, List.append_assoc, List.cons_append]
    cases f.negative with
    | false =>
      simp only [Bool.false_eq_true, if_false, List.nil_append]
      rw [scanFrom_cons, step, begin_digit (all c (by simp)), List.nil_append]
    | true =>
      have sign : step .sign c (digits ++ (f.fractionText ++ (f.powerText ++ rest))) = ([], .whole true [c]) := by
        rw [step, if_pos (all c (by simp))]
      show scanFrom .sign (c :: _) = _
      rw [scanFrom_cons, sign, List.nil_append]
  rw [begun, scan_whole (List.cons_ne_nil c []) (fun d member => all d (List.mem_cons_of_mem c member)) lead,
    ← scan_tail proper ends, split]
  simp

/-! Strings. -/

theorem hexValue_hexDigit {n : Nat} (small : n < 16) : hexValue? (hexDigit n) = some n := by
  have all : ∀ n < 16, hexValue? (hexDigit n) = some n := by decide
  exact all n small

theorem eq_ofNat_of_toNat {c : Char} {n : Nat} (code : c.toNat = n) : c = Char.ofNat n := by
  rw [← code, Char.ofNat_toNat]

/-- A character written by a letter behind a backslash. -/
theorem scan_letter (done : List Char) {letter c : Char} (rest : List Char) (plain : letter ≠ 'u')
    (known : escaped? letter = some c) :
    scanFrom (.text done false) ('\\' :: letter :: rest) = scanFrom (.text (c :: done) false) rest := by
  have begun : step (.text done false) '\\' (letter :: rest) = ([], .escape done false) := rfl
  have named : step (.escape done false) letter rest = ([], .text (c :: done) false) := by
    rw [step, if_neg plain, known]
  rw [scanFrom_cons, begun, List.nil_append, scanFrom_cons, named, List.nil_append]

/-- A character below the space written by its code. -/
theorem scan_code (done : List Char) {c : Char} (rest : List Char) (low : c.toNat < 32) :
    scanFrom (.text done false)
      ('\\' :: 'u' :: '0' :: '0' :: hexDigit (c.toNat / 16) :: hexDigit (c.toNat % 16) :: rest) =
        scanFrom (.text (c :: done) false) rest := by
  have high : hexValue? (hexDigit (c.toNat / 16)) = some (c.toNat / 16) := hexValue_hexDigit (by omega)
  have ones : hexValue? (hexDigit (c.toNat % 16)) = some (c.toNat % 16) := hexValue_hexDigit (by omega)
  have value : ((0 * 16 + 0) * 16 + c.toNat / 16) * 16 + c.toNat % 16 = c.toNat := by omega
  generalize hexDigit (c.toNat / 16) = h at high ⊢
  generalize hexDigit (c.toNat % 16) = g at ones ⊢
  have enough : ¬textSize ('0' :: '0' :: h :: g :: rest) < 4 := by
    have grows (n : Nat) (s : List Char) : n ≤ s.foldl (fun n c => n + c.utf8Size) n := by
      induction s generalizing n with
      | nil => exact Nat.le_refl n
      | cons d s ih => exact Nat.le_trans (Nat.le_add_right n d.utf8Size) (ih _)
    have behind := grows (0 + '0'.utf8Size + '0'.utf8Size + h.utf8Size + g.utf8Size) rest
    have zero : '0'.utf8Size = 1 := rfl
    have := h.utf8Size_pos
    have := g.utf8Size_pos
    simp only [textSize, List.foldl_cons]
    omega
  have decoded : unit done false none (((0 * 16 + 0) * 16 + c.toNat / 16) * 16 + c.toNat % 16) =
      .text (c :: done) false := by
    have below : ¬(0xd800 ≤ c.toNat) := by omega
    have outside : ¬(0xdc00 ≤ c.toNat) := by omega
    rw [value]
    simp [unit, below, outside, Char.ofNat_toNat]
  have begun : step (.text done false) '\\' ('u' :: '0' :: '0' :: h :: g :: rest) = ([], .escape done false) := rfl
  have marked : step (.escape done false) 'u' ('0' :: '0' :: h :: g :: rest) = ([], .hex done false none []) := by
    rw [step, if_pos rfl, if_neg enough]
  have first : step (.hex done false none []) '0' ('0' :: h :: g :: rest) = ([], .hex done false none [0]) := rfl
  have second : step (.hex done false none [0]) '0' (h :: g :: rest) = ([], .hex done false none [0, 0]) := rfl
  have third : step (.hex done false none [0, 0]) h (g :: rest) = ([], .hex done false none [0, 0, c.toNat / 16]) := by
    rw [step, high]
    rfl
  have last : step (.hex done false none [0, 0, c.toNat / 16]) g rest = ([], .text (c :: done) false) := by
    rw [step, ones]
    exact congrArg _ decoded
  simp only [scanFrom_cons, begun, marked, first, second, third, last, List.nil_append]

theorem scan_escape (done : List Char) (c : Char) (rest : List Char) :
    scanFrom (.text done false) (escapeChar c ++ rest) = scanFrom (.text (c :: done) false) rest := by
  unfold escapeChar
  split
  case isTrue quote =>
    subst quote
    exact scan_letter done rest (by decide) rfl
  case isFalse quote =>
  split
  case isTrue backslash =>
    subst backslash
    exact scan_letter done rest (by decide) rfl
  case isFalse backslash =>
  split
  case isTrue code => exact eq_ofNat_of_toNat code ▸ scan_letter done rest (by decide) rfl
  case isFalse =>
  split
  case isTrue code => exact eq_ofNat_of_toNat code ▸ scan_letter done rest (by decide) rfl
  case isFalse =>
  split
  case isTrue code => exact eq_ofNat_of_toNat code ▸ scan_letter done rest (by decide) rfl
  case isFalse =>
  split
  case isTrue code => exact eq_ofNat_of_toNat code ▸ scan_letter done rest (by decide) rfl
  case isFalse =>
  split
  case isTrue code => exact eq_ofNat_of_toNat code ▸ scan_letter done rest (by decide) rfl
  case isFalse =>
  split
  case isTrue low => exact scan_code done rest low
  case isFalse high =>
    have taken : step (.text done false) c rest = ([], .text (c :: done) false) := by
      rw [step, if_neg quote, if_neg backslash, if_neg high]
    rw [List.singleton_append, scanFrom_cons, taken, List.nil_append]

theorem scan_quote (s : String) (rest : List Char) :
    scanFrom .between ((quote s).toList ++ rest) = .text s :: scanFrom .between rest := by
  have inside (done chars : List Char) : scanFrom (.text done false) (chars.flatMap escapeChar ++ '"' :: rest) =
      .text (String.ofList (done.reverse ++ chars)) :: scanFrom .between rest := by
    induction chars generalizing done with
    | nil => simp [scanFrom_cons, step]
    | cons c chars ih =>
      rw [List.flatMap_cons, List.append_assoc, scan_escape, ih]
      simp
  have begun : step .between '"' (s.toList.flatMap escapeChar ++ '"' :: rest) = ([], .text [] false) := rfl
  have text : (quote s).toList ++ rest = '"' :: (s.toList.flatMap escapeChar ++ '"' :: rest) := by
    simp [quote]
  rw [text, scanFrom_cons, begun, List.nil_append, inside]
  simp

end Json

end AttributeStore
