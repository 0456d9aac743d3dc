import AttributeStore.Proofs.Column.Ordering
import AttributeStore.Proofs.Sql.Meaning
import AttributeStore.Proofs.Sql.Payloads
import AttributeStore.Proofs.Sql.Validity

/-! The order of conditions in clauses. Conditions keep the order they are declared in, and the first that cannot be
written names the fault; but whether there is a clause does not depend on the order, nor does what a clause over bare
columns says of a row. -/
namespace AttributeStore.Sql

namespace Truth

theorem and_left_comm (x y z : Truth) : and x (and y z) = and y (and x z) := by
  rcases x with _ | _ | _ <;> rcases y with _ | _ | _ <;> rcases z with _ | _ | _ <;> rfl

theorem or_left_comm (x y z : Truth) : or x (or y z) = or y (or x z) := by
  rcases x with _ | _ | _ <;> rcases y with _ | _ | _ <;> rcases z with _ | _ | _ <;> rfl

theorem all_perm {truths others : List Truth} (same : truths.Perm others) : all truths = all others :=
  have : LeftCommutative and := ⟨and_left_comm⟩
  same.foldr_eq _

theorem any_perm {truths others : List Truth} (same : truths.Perm others) : any truths = any others :=
  have : LeftCommutative or := ⟨or_left_comm⟩
  same.foldr_eq _

end Truth

/-- The expression that takes up a whole text, read with some room for expressions inside each other. -/
def Expr.within? (room : Nat) (s : String) : Option Expr :=
  match lex s with
  | .error _ => none
  | .ok lexemes =>
    match Grammar.subexpr (50 * (lexemes.length + room + 2)) room 0 lexemes with
    | .ok (e, []) => some e
    | _ => none

/-- A text is parsed with room for fifty levels: what it says of a row there is what the parser makes of it. -/
theorem Expr.within?_maxNesting (s : String) : within? Grammar.maxNesting s = (parse s).toOption := by
  unfold within? parse
  cases lex s with
  | error fault => rfl
  | ok lexemes =>
    simp only [bind, Except.bind, StateT.run, Grammar.fuelFor]
    cases Grammar.subexpr (50 * (lexemes.length + Grammar.maxNesting + 2)) Grammar.maxNesting 0 lexemes with
    | error fault => rfl
    | ok result =>
      obtain ⟨e, rest⟩ := result
      cases rest <;> rfl

/-- What a text says of a row, if it is an expression. -/
def Warehouse.says? (W : Warehouse) (row : W.Row) (room : Nat) (s : String) : Option Truth :=
  (Expr.within? room s).map fun e => W.holds (e.eval W row)

variable {c c' : Criteria}

theorem judged_reordered (same : c.Reordered c') (answer : Criterion → Truth) : c.judged answer = c'.judged answer := by
  simp only [Criteria.judged, same.any_nil, Truth.all_perm (same.all.map answer), Truth.any_perm (same.any.map answer)]

theorem clause_isOk_reordered (same : c.Reordered c') (subject : String) :
    (clause subject c).isOk = (clause subject c').isOk := by
  rw [clause_isOk, clause_isOk, same.perm.all_eq]

/-- A clause over bare columns is the expression of its conditions, or none at all. -/
theorem within?_clause {subject text : String} {tree : Criterion → Expr} {levels room : Nat}
    (words : ∀ d ∈ c.all ++ c.any, IsWord d.property)
    (settled : ∀ d ∈ c.all ++ c.any, (Grammar.IsUsable d → Grammar.ReadsAs levels d (tree d)) ∧
      (¬Grammar.IsUsable d → Grammar.IsRefused levels d))
    (written : clause subject c = .ok text) (deep : levels + 7 ≤ room) :
    ((∀ d ∈ c.all ++ c.any, Grammar.IsUsable d) →
      ∀ e, treeBy? tree c = some e → Expr.within? room text = some e) ∧
    ((∃ d ∈ c.all ++ c.any, ¬Grammar.IsUsable d) → Expr.within? room text = none) := by
  obtain ⟨lexemes, lexed, spelled⟩ := lex_clause words written
  obtain ⟨whole, fails⟩ := Grammar.subexpr_clause settled spelled
    (by omega : 4 * lexemes.length + 30 ≤ 50 * (lexemes.length + room + 2)) deep
  simp only [Expr.within?, lexed]
  constructor
  · intro usable e known
    rw [whole usable e known]
  · intro refused
    obtain ⟨fault, failed⟩ := fails refused
    rw [failed]

section

variable (bare : ∀ d ∈ c.all ++ c.any, Column.IsBare d.property) {levels room : Nat}
  (shallow : ∀ d ∈ c.all ++ c.any, d.value.nesting ≤ levels) (deep : levels + 7 ≤ room)
  {subject text : String} (written : clause subject c = .ok text)

include bare shallow deep written

/-- A clause over bare columns is an expression if each of its conditions can be used. -/
theorem within?_isSome_iff (filters : c.all ≠ [] ∨ c.any ≠ []) :
    (Expr.within? room text).isSome ↔ ∀ d ∈ c.all ++ c.any, Grammar.IsUsable d := by
  obtain ⟨tree, settled⟩ := Grammar.exists_settled bare shallow (condition_written written)
  obtain ⟨whole, refused⟩ := within?_clause (fun d member => (bare d member).isWord) settled written deep
  obtain ⟨e, known⟩ := exists_treeBy? tree filters
  constructor
  · intro read
    by_contra unusable
    rw [refused (by simpa using unusable)] at read
    cases read
  · intro usable
    rw [whole usable e known]
    rfl

/-- Two clauses of the same conditions over bare columns say the same of every row. -/
theorem says?_reordered (same : c.Reordered c') {text' : String} (written' : clause subject c' = .ok text')
    (W : Warehouse) (row : W.Row) : W.says? row room text = W.says? row room text' := by
  have shared (d : Criterion) : d ∈ c'.all ++ c'.any ↔ d ∈ c.all ++ c.any := same.symm.perm.mem_iff
  obtain ⟨tree, settled⟩ := Grammar.exists_settled bare shallow (condition_written written)
  obtain ⟨whole, refused⟩ := within?_clause (fun d member => (bare d member).isWord) settled written deep
  obtain ⟨whole', refused'⟩ := within?_clause (fun d member => (bare d ((shared d).mp member)).isWord)
    (fun d member => settled d ((shared d).mp member)) written' deep
  simp only [shared] at whole' refused'
  unfold Warehouse.says?
  by_cases usable : ∀ d ∈ c.all ++ c.any, Grammar.IsUsable d
  case neg =>
    have unusable : ∃ d ∈ c.all ++ c.any, ¬Grammar.IsUsable d := by simpa using usable
    rw [refused unusable, refused' unusable]
  case pos =>
    by_cases idle : c.all = [] ∧ c.any = []
    case pos =>
      -- without a condition nothing is written, on either side
      have idle' : c'.all = [] ∧ c'.any = [] := ⟨same.all_nil.mp idle.1, same.any_nil.mp idle.2⟩
      have alike : c' = c := by cases c; cases c'; simp_all
      rw [alike, written] at written'
      cases written'
      rfl
    case neg =>
      have filters : c.all ≠ [] ∨ c.any ≠ [] := not_and_or.mp idle
      have filters' : c'.all ≠ [] ∨ c'.any ≠ [] :=
        filters.imp (mt same.all_nil.mpr) (mt same.any_nil.mpr)
      obtain ⟨e, known⟩ := exists_treeBy? tree filters
      obtain ⟨e', known'⟩ := exists_treeBy? tree filters'
      rw [whole usable e known, whole' usable e' known', Option.map_some, Option.map_some,
        holds_treeBy? W row tree known, holds_treeBy? W row tree known', judged_reordered same]

end

end Sql

open Sql

/-- The order of conditions does not matter. Criteria with the same conditions in another order have one name, and so
have the columns of attributes that filter by them. There is a clause for both or for neither. Over bare columns, as
soon as there is room to read them, a clause is an expression if each of its conditions can be used, and the two clauses
say the same of every row. -/
theorem Criteria.Reordered.alike {c c' : Criteria} (same : c.Reordered c') :
    Column.ofCriteria c = Column.ofCriteria c' ∧
    (∀ (a : Attribute) aggregation property,
      Column.daily { a with criteria := some c } aggregation property =
        Column.daily { a with criteria := some c' } aggregation property) ∧
    ∀ subject, (clause subject c).isOk = (clause subject c').isOk ∧
      ((∀ d ∈ c.all ++ c.any, Column.IsBare d.property) →
        ∀ levels room, (∀ d ∈ c.all ++ c.any, d.value.nesting ≤ levels) → levels + 7 ≤ room →
        ∀ text text', clause subject c = .ok text → clause subject c' = .ok text' →
          (c.all ≠ [] ∨ c.any ≠ [] →
            ((Expr.within? room text).isSome ↔ ∀ d ∈ c.all ++ c.any, Grammar.IsUsable d)) ∧
          ∀ (W : Warehouse) (row : W.Row), W.says? row room text = W.says? row room text') := by
  refine ⟨Column.ofCriteria_reordered same, Column.daily_reordered same, fun subject => ?_⟩
  refine ⟨clause_isOk_reordered same subject, ?_⟩
  intro bare levels room shallow deep text text' written written'
  exact ⟨within?_isSome_iff bare shallow deep written, says?_reordered bare shallow deep written same written'⟩

/-- Members or adults abroad: the conditions of both groups the other way round. -/
theorem Criteria.Reordered.alike_abroad :
    let other : Criteria := ⟨adultsOrMembersAbroad.all.reverse, adultsOrMembersAbroad.any.reverse⟩
    let text :=
      "event_name IN('visit', 'it''s') AND (country != 'US' OR country IS NULL) AND (age >= 18 OR member = TRUE)"
    let text' :=
      "(country != 'US' OR country IS NULL) AND event_name IN('visit', 'it''s') AND (member = TRUE OR age >= 18)"
    adultsOrMembersAbroad.Reordered other ∧
    Column.ofCriteria adultsOrMembersAbroad = Column.ofCriteria other ∧
    clause "visits" adultsOrMembersAbroad = .ok text ∧ clause "visits" other = .ok text' ∧
    (Expr.within? Grammar.maxNesting text).isSome ∧ (Expr.parse text).toOption.isSome ∧
    ∀ (W : Warehouse) (row : W.Row), W.says? row Grammar.maxNesting text = W.says? row Grammar.maxNesting text' := by
  intro other text text'
  have same : adultsOrMembersAbroad.Reordered other := ⟨(List.reverse_perm _).symm, (List.reverse_perm _).symm⟩
  obtain ⟨names, -, clauses⟩ := same.alike
  have bare : ∀ d ∈ adultsOrMembersAbroad.all ++ adultsOrMembersAbroad.any,
      Column.IsBare d.property ∧ Grammar.IsUsable d := by
    simp only [adultsOrMembersAbroad, List.cons_append, List.nil_append, List.forall_mem_cons, List.not_mem_nil,
      false_imp_iff, implies_true, and_true]
    refine ⟨?_, ?_, ?_, ?_⟩ <;>
      exact ⟨⟨by decide, by decide, by decide, by decide⟩, by decide, by decide⟩
  have shallow : ∀ d ∈ adultsOrMembersAbroad.all ++ adultsOrMembersAbroad.any, d.value.nesting ≤ 1 := by
    decide
  have written : clause "visits" adultsOrMembersAbroad = .ok text := rfl
  have written' : clause "visits" other = .ok text' := rfl
  obtain ⟨read, answers⟩ := (clauses "visits").2 (fun d member => (bare d member).1) 1 Grammar.maxNesting shallow
    (by decide) text text' written written'
  have usable := (read (.inl (by decide))).mpr fun d member => (bare d member).2
  exact ⟨same, names, written, written', usable, Expr.within?_maxNesting text ▸ usable, answers⟩

namespace Sql

/-- The order of two conditions shows: each order has a clause, and the two do not say the same of some row. -/
def OrderShows (d e : Criterion) : Prop :=
  Criteria.Reordered ⟨[d, e], []⟩ ⟨[e, d], []⟩ ∧
    ∃ text text', clause "visits" ⟨[d, e], []⟩ = .ok text ∧ clause "visits" ⟨[e, d], []⟩ = .ok text' ∧
      ∃ (W : Warehouse) (row : W.Row), W.says? row Grammar.maxNesting text ≠ W.says? row Grammar.maxNesting text'

/-- Whole numbers, and nothing else of a value. -/
def numbers : Warehouse where
  Value := Int
  bool b := if b then 1 else 0
  int n := n
  text _ := 0
  tuple _ := 0
  compare a b := some (compare a b)
  like _ _ := none
  truth n := some (n ≠ 0)
  number _ := none
  form _ _ := none
  truth_bool := by decide

/-- A row with a one in one column and zeros in all others. -/
def oneAt (column : String) : numbers.Row := fun name => some (numbers.int (if name = column then 1 else 0))

/-- Properties are written as they are. One that holds an operator binds to its neighbours, a reserved word can be read
in the first place only, and a name that begins with a digit is read as a number and a word. -/
theorem orderShows_of_unbare :
    OrderShows ⟨"x = 1 OR y", .eq, .int 2⟩ ⟨"z", .eq, .int 3⟩ ∧
    OrderShows ⟨"any", .eq, .int 1⟩ ⟨"x", .eq, .int 2⟩ ∧
    OrderShows ⟨"1or", .isIn, .list [.str "a"]⟩ ⟨"z", .eq, .int 3⟩ := by
  have swapped (d e : Criterion) : Criteria.Reordered ⟨[d, e], []⟩ ⟨[e, d], []⟩ := ⟨.swap e d [], .nil⟩
  refine ⟨⟨swapped _ _, ?_⟩, ⟨swapped _ _, ?_⟩, ⟨swapped _ _, ?_⟩⟩
  · refine ⟨"x = 1 OR y = 2 AND z = 3", "z = 3 AND x = 1 OR y = 2", rfl, rfl, numbers, oneAt "x", ?_⟩
    decide +kernel
  · refine ⟨"any = 1 AND x = 2", "x = 2 AND any = 1", rfl, rfl, numbers, oneAt "x", ?_⟩
    decide +kernel
  · refine ⟨"1or IN('a') AND z = 3", "z = 3 AND 1or IN('a')", rfl, rfl, numbers, oneAt "x", ?_⟩
    decide +kernel

end Sql

end AttributeStore
