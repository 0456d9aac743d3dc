import AttributeStore.Proofs.Outcome
import AttributeStore.Proofs.Sql.Lexing

/-! Texts put together from others. A passage is cut into its own tokens before any text; what a text in single quotes
is cut into depends on the quotes inside it, and what a comment hides on its line ends. -/
namespace AttributeStore.Sql

/-- Somewhere in a larger text, the text is cut into these tokens. -/
def Reads (s : List Char) (tokens : List Token) : Prop :=
  ∃ fuel p afterWord lexemes, s.length ≤ fuel ∧ Lexer.lexFrom fuel p afterWord s = .ok lexemes ∧
    lexemes.map (·.token) = tokens

theorem Reads.of_lex {s : String} {lexemes : List Lexeme} (run : lex s = .ok lexemes) :
    Reads s.toList (lexemes.map (·.token)) :=
  ⟨s.length, ⟨1, 1⟩, false, lexemes, by rw [String.length_toList], run, rfl⟩

/-- What is left of a text is cut into the tokens that are left. -/
theorem Leads.reads {s left : List Char} {tokens more : List Token} (leads : Leads s tokens left)
    (reads : Reads s (tokens ++ more)) : Reads left more := by
  obtain ⟨fuel, p, afterWord, lexemes, enough, run, same⟩ := reads
  obtain ⟨fuel', p', afterWord', first, enough', same', split⟩ := leads fuel p afterWord enough
  rw [split, map_eq_ok_iff] at run
  obtain ⟨rest, run, rfl⟩ := run
  refine ⟨fuel', p', afterWord', rest, enough', run, ?_⟩
  rw [List.map_append, same'] at same
  exact List.append_cancel_left same

/-- The text is cut into these tokens, whatever stands behind it. -/
def IsPassage (s : List Char) (tokens : List Token) : Prop := ∀ rest, Leads (s ++ rest) tokens rest

theorem IsPassage.append {s s' : List Char} {tokens tokens' : List Token} (first : IsPassage s tokens)
    (second : IsPassage s' tokens') : IsPassage (s ++ s') (tokens ++ tokens') := by
  intro rest
  rw [List.append_assoc]
  exact (first _).trans (second rest)

theorem IsPassage.nil : IsPassage [] [] := fun _ fuel p afterWord enough =>
  ⟨fuel, p, afterWord, [], enough, rfl, (id_map _).symm⟩

theorem IsPassage.flatMap {α : Type} {text : α → List Char} {tokens : α → List Token} {items : List α}
    (each : ∀ item ∈ items, IsPassage (text item) (tokens item)) :
    IsPassage (items.flatMap text) (items.flatMap tokens) := by
  induction items with
  | nil => exact nil
  | cons item rest ih =>
    obtain ⟨first, others⟩ := List.forall_mem_cons.mp each
    exact first.append (ih others)

/-! The marks between words. -/

theorem IsPassage.space : IsPassage [' '] [] := Leads.space

theorem Leads.newline (rest : List Char) : Leads ('\n' :: rest) [] rest := Leads.blank (fun _ => rfl) le_rfl

theorem IsPassage.newline : IsPassage ['\n'] [] := Leads.newline

theorem IsPassage.comma : IsPassage [','] [.symbol ","] := fun _ => Leads.token (fun _ => rfl) le_rfl

theorem IsPassage.opening : IsPassage ['('] [.symbol "("] := fun _ => Leads.token (fun _ => rfl) le_rfl

theorem IsPassage.closing : IsPassage [')'] [.symbol ")"] := fun _ => Leads.token (fun _ => rfl) le_rfl

/-- A word is complete before a mark. -/
theorem IsPassage.word {s : String} {mark : Char} {tokens : List Token} (word : IsWord s)
    (ends : Lexer.continuesName mark = false ∧ mark ≠ '\'' ∧ mark ≠ '"' ∧ mark ≠ '&')
    (behind : IsPassage [mark] tokens) : IsPassage (s.toList ++ [mark]) (.word s :: tokens) := by
  intro rest
  rw [List.append_assoc]
  exact (Leads.word word (EndsName.cons ends)).trans (behind rest)

/-- A comment ends with its line. -/
theorem IsPassage.comment {s : List Char} (oneLine : '\n' ∉ s) : IsPassage ('-' :: '-' :: (s ++ ['\n'])) [] := by
  intro rest
  have line : (s ++ '\n' :: rest).dropWhile (· ≠ '\n') = '\n' :: rest := by
    have inside : ∀ c ∈ s, decide (c ≠ '\n') = true := by
      intro c member
      simp only [ne_eq, decide_eq_true_eq]
      rintro rfl
      exact oneLine member
    exact (span_append inside (by simp)).2
  have hidden : Leads ('-' :: '-' :: (s ++ '\n' :: rest)) [] ('\n' :: rest) := by
    refine Leads.blank (fun _ => ?_) (by simp; omega)
    show Lexer.Cut.blank _ = _
    rw [line]
  simpa using hidden.trans (Leads.newline rest)

namespace Lexer

/-- A text with its quotes doubled. -/
def doubled (q : Char) (s : List Char) : List Char := s.flatMap fun c => if c = q then [q, q] else [c]

theorem quoted_split {q : Char} {s payload rest : List Char} (found : quoted q s = some (payload, rest)) :
    s = doubled q payload ++ q :: rest := by
  fun_induction quoted q s generalizing payload with
  | case1 => cases found
  | case2 rest' ih =>
    obtain ⟨⟨inner, left⟩, found, same⟩ := Option.map_eq_some_iff.mp found
    cases same
    rw [ih found]
    simp [doubled]
  | case3 d rest' other =>
    cases found
    rfl
  | case4 c d rest' other ih =>
    obtain ⟨⟨inner, left⟩, found, same⟩ := Option.map_eq_some_iff.mp found
    cases same
    rw [ih found]
    simp [doubled, other]
  | case5 =>
    cases found
    rfl
  | case6 => cases found

theorem doubled_of_not_mem {q : Char} {s : List Char} (free : q ∉ s) : doubled q s = s := by
  induction s with
  | nil => rfl
  | cons c s ih =>
    rw [List.mem_cons, not_or] at free
    rw [doubled, List.flatMap_cons, ← doubled, ih free.2, if_neg (Ne.symm free.1), List.singleton_append]

/-- Behind a quote too many, the quotes of a text and those of its doubling never meet again. -/
theorem ne_of_quotes {q : Char} {s tail rest : List Char} (ends : tail.head? ≠ some q) (k : Nat) :
    s ++ q :: tail ≠ List.replicate (k + 1) q ++ (doubled q s ++ q :: rest) := by
  induction s generalizing k with
  | nil =>
    intro same
    rw [List.replicate_succ, List.nil_append, List.cons_append, List.cons.injEq] at same
    refine ends ?_
    rw [same.2]
    cases k <;> simp [doubled, List.replicate_succ]
  | cons c s ih =>
    intro same
    rw [List.replicate_succ, List.cons_append, List.cons_append, List.cons.injEq] at same
    obtain ⟨rfl, same⟩ := same
    refine ih (k + 1) (same.trans ?_)
    simp [doubled, List.replicate_succ']

/-- A text between quotes is read back only if there is no quote in it. -/
theorem doubled_eq {q : Char} {s tail rest : List Char} (ends : tail.head? ≠ some q)
    (same : s ++ q :: tail = doubled q s ++ q :: rest) : q ∉ s := by
  induction s with
  | nil => exact List.not_mem_nil
  | cons c s ih =>
    rw [doubled, List.flatMap_cons, ← doubled] at same
    by_cases quote : c = q
    · rw [if_pos quote, quote, List.cons_append, List.append_assoc, List.cons_append, List.cons.injEq] at same
      exact absurd same.2 (ne_of_quotes ends 0)
    · rw [if_neg quote, List.singleton_append, List.cons_append, List.cons_append, List.cons.injEq] at same
      simpa [Ne.symm quote] using ih same.2

end Lexer

open Lexer

/-- A text without quotes, between quotes. -/
theorem Leads.text {s : String} {tail : List Char} (free : '\'' ∉ s.toList) (ends : tail.head? ≠ some '\'') :
    Leads ('\'' :: (s.toList ++ '\'' :: tail)) [.text s] tail := by
  refine Leads.token (fun _ => ?_) (by simp; omega)
  have found := quoted_escape s.toList tail ends
  rw [← doubled, doubled_of_not_mem free] at found
  rw [cut_quote, found, Option.elim_some, String.ofList_toList]

theorem IsPassage.text {s : String} {mark : Char} {tokens : List Token} (free : '\'' ∉ s.toList)
    (ends : mark ≠ '\'') (behind : IsPassage [mark] tokens) :
    IsPassage ('\'' :: (s.toList ++ ['\'', mark])) (.text s :: tokens) := by
  intro rest
  rw [List.cons_append, List.append_assoc]
  exact (Leads.text free (by simpa using ends)).trans (behind rest)

/-- Where a text between quotes is read back, there is no quote in it, and the rest is read behind it. -/
theorem Reads.text {s : String} {tail : List Char} {more : List Token} (ends : tail.head? ≠ some '\'')
    (reads : Reads ('\'' :: (s.toList ++ '\'' :: tail)) (.text s :: more)) : '\'' ∉ s.toList ∧ Reads tail more := by
  have free : '\'' ∉ s.toList := by
    obtain ⟨fuel, p, afterWord, lexemes, enough, run, same⟩ := reads
    obtain ⟨fuel, rfl⟩ : ∃ n, fuel = n + 1 := ⟨fuel - 1, by simp at enough; omega⟩
    rw [lexFrom, cut_quote] at run
    cases found : quoted '\'' (s.toList ++ '\'' :: tail) with
    | none =>
      rw [found] at run
      cases run
    | some split =>
      rw [found] at run
      obtain ⟨rest, -, read⟩ := bind_eq_ok_iff.mp run
      cases read
      obtain rfl : String.ofList split.1 = s := by simpa using congrArg (·.head?) same
      rw [String.toList_ofList] at found ⊢
      exact doubled_eq ends (quoted_split found)
  exact ⟨free, (Leads.text free ends).reads reads⟩

end AttributeStore.Sql
