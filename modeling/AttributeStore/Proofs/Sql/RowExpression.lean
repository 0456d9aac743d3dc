import AttributeStore.Sql.Clause
import AttributeStore.Proofs.Column.Name

/-! The expression of each row that a daily aggregate folds. With a filter it is a case of the filter, and it can be
told from the text what is filtered and what is folded. -/
namespace AttributeStore.Sql

/-- What a row that passes the filter adds to a fold. -/
def counted (fold : Fold) (property : Option String) : Option String :=
  match fold, property with
  | .count, _ => some "1"
  | .sum, some p => some ("CAST(" ++ p ++ " AS FLOAT)")
  | _, property => property

/-- What a row that does not pass the filter adds to a fold. -/
def otherwise : Fold → String
  | .count | .sum => "0"
  | _ => "NULL"

def caseWhen (clause result other : String) : String :=
  "CASE WHEN " ++ clause ++ " THEN " ++ result ++ " ELSE " ++ other ++ " END"

def guarded (fold : Fold) (clause result : String) : String :=
  (if fold = .uniqueList then "DISTINCT " else "") ++ caseWhen clause result (otherwise fold)

/-- A filter that is there and valid is one expression. -/
theorem validate_parsed {subject clause : String} (filters : clause ≠ "") (valid : validate subject clause = .ok ()) :
    ∃ tree, Expr.parse clause = .ok tree := by
  have nonempty : clause.isEmpty = false := by simpa using filters
  rw [validate, nonempty] at valid
  cases parsed : Expr.parse clause with
  | ok tree => exact ⟨tree, rfl⟩
  | error fault => simp [parsed] at valid

theorem rowExpression_filtered {subject clause : String} {fold : Fold} {property : Option String}
    (filters : clause ≠ "") : rowExpression subject fold clause property =
      match counted fold property with
      | some result => .ok (guarded fold clause result)
      | none => .error (.missingProperty subject fold.name) := by
  have nonempty : clause.isEmpty = false := by simpa using filters
  have cast : " THEN CAST(" = " THEN " ++ "CAST(" := by decide
  have distinct : "DISTINCT CASE WHEN " = "DISTINCT " ++ "CASE WHEN " := by decide
  delta guarded caseWhen
  cases property <;> cases fold <;>
    simp [rowExpression, counted, nonempty, otherwise, String.append_assoc]
  case some.sum p => rw [cast, String.append_assoc]
  case some.uniqueList p => rw [distinct, String.append_assoc]

/-- Where two texts are cut at a mark, at the last one of each, they agree on both sides. -/
theorem cut_injective {mark : Char} {front₁ front₂ back₁ back₂ : List Char} (last₁ : mark ∉ back₁)
    (last₂ : mark ∉ back₂) (same : front₁ ++ mark :: back₁ = front₂ ++ mark :: back₂) :
    front₁ = front₂ ∧ back₁ = back₂ := by
  rcases List.append_eq_append_iff.mp same with ⟨between, front, back⟩ | ⟨between, front, back⟩
  · cases between with
    | nil => exact ⟨by simpa using front.symm, by simpa using back⟩
    | cons c rest =>
      have again : back₁ = rest ++ mark :: back₂ := by simpa using (List.cons.inj back).2
      exact absurd (by simp [again]) last₁
  · cases between with
    | nil => exact ⟨by simpa using front, by simpa using back.symm⟩
    | cons c rest =>
      have again : back₂ = rest ++ mark :: back₁ := by simpa using (List.cons.inj back).2
      exact absurd (by simp [again]) last₂

theorem enclosed_injective {front clause₁ clause₂ opening name₁ name₂ closing : String} {mark : Char}
    (marked : opening.toList.getLast? = some mark) (first : mark ∉ name₁.toList) (second : mark ∉ name₂.toList)
    (same : front ++ clause₁ ++ opening ++ name₁ ++ closing = front ++ clause₂ ++ opening ++ name₂ ++ closing) :
    clause₁ = clause₂ ∧ name₁ = name₂ := by
  obtain ⟨before, ends⟩ := List.getLast?_eq_some_iff.mp marked
  rw [String.append_left_inj] at same
  have texts := congrArg String.toList same
  simp only [String.toList_append, ends, List.append_assoc, List.append_cancel_left_eq, List.singleton_append] at texts
  rw [← List.append_assoc, ← List.append_assoc clause₂.toList] at texts
  obtain ⟨fronts, names⟩ := cut_injective first second texts
  exact ⟨String.toList_inj.mp (List.append_cancel_right fronts), String.toList_inj.mp names⟩

/-- The text that is folded tells the filter, and the column, too, unless rows are only counted. -/
theorem rowExpression_injective {subject₁ subject₂ clause₁ clause₂ text : String} {fold : Fold}
    {property₁ property₂ : Option String} (filters₁ : clause₁ ≠ "") (filters₂ : clause₂ ≠ "")
    (named₁ : ∀ p ∈ property₁, ∀ c ∈ p.toList, Column.isNameChar c)
    (named₂ : ∀ p ∈ property₂, ∀ c ∈ p.toList, Column.isNameChar c)
    (written₁ : rowExpression subject₁ fold clause₁ property₁ = .ok text)
    (written₂ : rowExpression subject₂ fold clause₂ property₂ = .ok text) :
    clause₁ = clause₂ ∧ (fold ≠ .count → property₁ = property₂) := by
  have nonempty₁ : clause₁.isEmpty = false := by simpa using filters₁
  have nonempty₂ : clause₂.isEmpty = false := by simpa using filters₂
  have unnamed : ∀ property : Option String, (∀ p ∈ property, ∀ c ∈ p.toList, Column.isNameChar c) →
      ∀ mark, Column.isNameChar mark = false → ∀ p ∈ property, mark ∉ p.toList := by
    intro property named mark refused p declared member
    rw [named p declared mark member] at refused
    cases refused
  by_cases counts : fold = .count
  · subst counts
    simp only [rowExpression, nonempty₁, nonempty₂, Bool.false_eq_true, if_false, Except.ok.injEq] at written₁ written₂
    have same := written₁.trans written₂.symm
    rw [String.append_left_inj, String.append_right_inj] at same
    exact ⟨same, fun other => absurd rfl other⟩
  · cases property₁ with
    | none => cases fold <;> simp [rowExpression] at counts written₁
    | some p₁ =>
      cases property₂ with
      | none => cases fold <;> simp [rowExpression] at counts written₂
      | some p₂ =>
        have blank := fun property named => unnamed property named ' ' (by decide)
        have parenthesis := fun property named => unnamed property named '(' (by decide)
        suffices clause₁ = clause₂ ∧ p₁ = p₂ from ⟨this.1, fun _ => congrArg some this.2⟩
        cases fold <;>
          simp only [rowExpression, nonempty₁, nonempty₂, Bool.false_eq_true, if_false,
            Except.ok.injEq] at written₁ written₂
        case count => exact absurd rfl counts
        case sum =>
          exact enclosed_injective (by decide) (parenthesis _ named₁ p₁ rfl) (parenthesis _ named₂ p₂ rfl)
            (written₁.trans written₂.symm)
        all_goals
          exact enclosed_injective (by decide) (blank _ named₁ p₁ rfl) (blank _ named₂ p₂ rfl)
            (written₁.trans written₂.symm)

theorem rowExpression_congr {subject subject' clause text : String} {fold : Fold} {property property' : Option String}
    (same : fold ≠ .count → property = property') (written : rowExpression subject fold clause property = .ok text) :
    rowExpression subject' fold clause property' = .ok text := by
  by_cases counts : fold = .count
  · subst counts
    exact written
  · obtain rfl := same counts
    cases property with
    | none => cases fold <;> simp [rowExpression] at counts written
    | some p => cases fold <;> exact written

end AttributeStore.Sql
