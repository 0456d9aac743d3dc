import AttributeStore.Proofs.Outcome
import AttributeStore.Proofs.Sql.Conditions

/-! What is written for criteria, token by token: literals of any kind, conditions, and groups of them behind their
connectives. A condition needs no more than a property that is a bare name. -/
namespace AttributeStore.Sql

/-- Conditions that follow others, each behind the connective. -/
def furtherTokens (word : String) (cs : List Criterion) : List Token :=
  cs.flatMap fun c => .word word :: conditionTokens c

def junctionTokens (word : String) : List Criterion → List Token
  | [] => []
  | c :: cs => conditionTokens c ++ furtherTokens word cs

/-- The `any` group stands in parentheses only if another group is before it. -/
def clauseTokens (c : Criteria) : List Token :=
  match c.all, c.any with
  | [], any => junctionTokens "OR" any
  | all, [] => junctionTokens "AND" all
  | all, any => junctionTokens "AND" all ++ .word "AND" :: .symbol "(" :: (junctionTokens "OR" any ++ [.symbol ")"])

namespace Cuts

/-- A minus stands alone before a digit. -/
theorem plain_minus {digits : List Char} (known : Decimal.IsDigits digits) (rest : List Char) :
    ∀ c ∈ (digits ++ rest).head?, c ≠ '-' ∧ c ≠ '>' := by
  obtain ⟨d, more, rfl⟩ := List.exists_cons_of_ne_nil known.nonempty
  intro c first
  obtain rfl : d = c := by simpa using first
  have digit := known.digits d (by simp)
  constructor <;> rintro rfl <;> cases digit

theorem unsigned {n : Nat} {rest : List Char} {tokens : List Token} (ends : Ends rest) (more : Cuts rest tokens) :
    Cuts ((toString n).toList ++ rest) (Sql.unsigned n :: tokens) := by
  have text : (⟨false, (toString n).toList, none, none⟩ : Decimal.Form).text = (toString n).toList := by
    simp [Decimal.Form.text, Decimal.Form.fractionText, Decimal.Form.powerText]
  have proper : (⟨false, (toString n).toList, none, none⟩ : Decimal.Form).Proper :=
    ⟨Decimal.isWhole_toString n, by simp, by simp⟩
  have cuts := Cuts.number proper rfl rfl ends more
  rwa [text, String.ofList_toList] at cuts

theorem int {n : Int} {rest : List Char} {tokens : List Token} (ends : Ends rest) (more : Cuts rest tokens) :
    Cuts ((toString n).toList ++ rest)
      ((if n < 0 then [.symbol "-", Sql.unsigned n.natAbs] else [Sql.unsigned n.natAbs]) ++ tokens) := by
  rw [Decimal.toString_int]
  split
  · exact Cuts.minus (plain_minus (Decimal.isDigits_toString n.natAbs) rest) (unsigned ends more)
  · exact unsigned ends more

theorem float {x : Float} {rest : List Char} {tokens : List Token} (ends : Ends rest) (more : Cuts rest tokens) :
    Cuts ((Decimal.plain x).toList ++ rest) (floatTokens x ++ tokens) := by
  have infinite := Cuts.word (by decide : IsWord "inf") ends more
  obtain ⟨f, proper, positive, plain, -, written⟩ :=
    Decimal.plainNotation.magnitude_form (Decimal.Magnitude.ofBits x.toBits)
  have magnitude := Cuts.number proper positive (plain fun _ => rfl) ends more
  have begins := plain_minus proper.whole.toIsDigits (f.fractionText ++ f.powerText ++ rest)
  have text : f.whole ++ (f.fractionText ++ f.powerText ++ rest) = f.text ++ rest := by
    simp [Decimal.Form.text, positive]
  rw [text] at begins
  rw [← written] at magnitude begins
  rw [String.ofList_toList] at magnitude
  unfold Decimal.plain floatTokens
  split
  · exact Cuts.word (by decide : IsWord "NaN") ends more
  · split
    · split
      · simp only [String.reduceToList, List.cons_append, List.nil_append] at infinite ⊢
        exact Cuts.minus (by simp) infinite
      · exact infinite
    · dsimp only [Decimal.Notation.render]
      by_cases sign : x.toBits >>> 63 = 1
      · rw [if_pos sign, if_pos sign]
        simp only [String.toList_append, String.reduceToList, List.cons_append, List.nil_append]
        exact Cuts.minus begins magnitude
      · rw [if_neg sign, if_neg sign]
        simpa using magnitude

mutual

theorem literal (v : Operand) {rest : List Char} {tokens : List Token} (ends : Ends rest) (more : Cuts rest tokens) :
    Cuts ((Sql.literal v).toList ++ rest) (literalTokens v ++ tokens) :=
  match v with
  | .bool b => by
    rw [Sql.literal, literalTokens]
    exact Cuts.word (by cases b <;> decide) ends more
  | .int n => by
    rw [Sql.literal, literalTokens]
    exact int ends more
  | .float x => by
    rw [Sql.literal, literalTokens]
    exact float ends more
  | .str s => by
    rw [Sql.literal, literalTokens]
    simp only [String.toList_append, List.append_assoc, String.reduceToList, List.cons_append, List.nil_append]
    exact Cuts.text ends more
  | .list items => by
    rw [Sql.literal, literalTokens]
    simp only [String.toList_append, List.append_assoc, List.cons_append]
    exact Cuts.opening (literals items (Ends.cons (by decide)) (Cuts.closing more))

theorem literals (items : List Operand) {rest : List Char} {tokens : List Token} (ends : Ends rest)
    (more : Cuts rest tokens) :
    Cuts ((", ".intercalate (Sql.literals items)).toList ++ rest) (commas (itemTokens items) ++ tokens) :=
  match items with
  | [] => by simpa [Sql.literals, itemTokens, commas] using more
  | [v] => by simpa [Sql.literals, itemTokens, commas] using literal v ends more
  | v :: w :: items => by
    have others := literals (w :: items) ends more
    rw [Sql.literals, Sql.literals, String.intercalate_cons_cons]
    simp only [String.toList_append, List.append_assoc, itemTokens, commas, List.cons_append]
    exact literal v (Ends.cons (by decide)) (Cuts.comma (Cuts.space others))

end

theorem items (v : Operand) {rest : List Char} {tokens : List Token} (ends : Ends rest) (more : Cuts rest tokens) :
    Cuts ((inList v).toList ++ rest) (commas (v.items.map literalTokens) ++ tokens) := by
  rw [← itemTokens_eq_map]
  cases v with
  | list items => exact literals items ends more
  | bool | int | float | str =>
    simp only [Operand.items, itemTokens, commas]
    exact literal _ ends more

theorem blank (rest : List Char) : Ends (' ' :: rest) := Ends.cons (.inl rfl)

theorem column {c : Criterion} (word : IsWord c.property) {rest : List Char} {tokens : List Token}
    (more : Cuts rest tokens) :
    Cuts (c.property.toList ++ ' ' :: rest) (.word c.property :: tokens) :=
  Cuts.word word (blank rest) (Cuts.space more)

theorem compared {c : Criterion} (word : IsWord c.property) (op : Operator) (compares : op ≠ .like ∧ op ≠ .isIn)
    {rest : List Char} {tokens : List Token} (ends : Ends rest) (more : Cuts rest tokens) :
    Cuts (c.property.toList ++ ' ' :: (op.symbol.toList ++ ' ' :: ((Sql.literal c.value).toList ++ rest)))
      (.word c.property :: .symbol (if op = .notEq then "<>" else op.symbol) :: (literalTokens c.value ++ tokens)) :=
  column word (Cuts.comparison compares (Cuts.space (literal c.value ends more)))

/-- A condition that can be written is read token by token. -/
theorem condition {subject : String} {c : Criterion} (word : IsWord c.property) {text : String}
    (written : Sql.condition subject c = .ok text) {rest : List Char} {tokens : List Token} (ends : Ends rest)
    (more : Cuts rest tokens) : Cuts (text.toList ++ rest) (conditionTokens c ++ tokens) := by
  unfold Sql.condition at written
  unfold conditionTokens
  cases operator : c.operator <;> simp only [operator] at written ⊢
  case eq =>
    cases written
    simp only [String.toList_append, List.append_assoc]
    exact compared word .eq (by decide) ends more
  case notEq =>
    cases written
    simp only [String.toList_append, List.append_assoc, String.reduceToList, List.cons_append, List.nil_append]
    have missing := Cuts.word (by decide : IsWord "NULL") (Ends.cons (by decide)) (Cuts.closing more)
    have test := Cuts.word (by decide : IsWord "IS") (blank _) (Cuts.space missing)
    have either := Cuts.word (by decide : IsWord "OR") (blank _) (Cuts.space (column word test))
    simp only [String.reduceToList, List.cons_append, List.nil_append] at either
    exact Cuts.opening (compared word .notEq (by decide) (blank _) (Cuts.space either))
  case like =>
    cases written
    have pattern : Cuts ('\'' :: ((escape (containing c.value.text)).toList ++ '\'' :: rest))
        (.text (containing c.value.text) :: tokens) := Cuts.text ends more
    have escaped : (escape (containing c.value.text)).toList = '%' :: ((escape c.value.text).toList ++ ['%']) := by
      simp [escape, containing]
    rw [escaped] at pattern
    have keyword := Cuts.word (by decide : IsWord "LIKE") (blank _) (Cuts.space pattern)
    simp only [String.reduceToList, List.append_assoc, List.cons_append, List.nil_append] at keyword
    simp only [String.toList_append, List.append_assoc, String.reduceToList, List.cons_append, List.nil_append]
    exact column word keyword
  case isIn =>
    cases written
    have keyword := Cuts.word (by decide : IsWord "IN") (Ends.cons (by decide))
      (Cuts.opening (items c.value (Ends.cons (by decide)) (Cuts.closing more)))
    simp only [String.reduceToList, List.cons_append, List.nil_append] at keyword
    simp only [String.toList_append, List.append_assoc, String.reduceToList, List.cons_append, List.nil_append]
    exact column word keyword
  case lt | gt | ltEq | gtEq =>
    split at written
    · cases written
    · cases written
    · cases written
      simp only [String.toList_append, List.append_assoc]
      exact compared word _ (by decide) ends more

theorem junction {subject connective : String} (known : IsWord connective) {c : Criterion} {cs : List Criterion}
    (words : ∀ d ∈ c :: cs, IsWord d.property) {texts : List String}
    (written : List.Forall₂ (fun d text => Sql.condition subject d = .ok text) (c :: cs) texts) {rest : List Char}
    {tokens : List Token} (ends : Ends rest) (more : Cuts rest tokens) :
    Cuts (((" " ++ connective ++ " ").intercalate texts).toList ++ rest)
      (junctionTokens connective (c :: cs) ++ tokens) := by
  induction cs generalizing c texts with
  | nil =>
    obtain ⟨text, _, first, others, rfl⟩ := List.forall₂_cons_left_iff.mp written
    obtain rfl := List.forall₂_nil_left_iff.mp others
    simpa [junctionTokens, furtherTokens] using condition (words c (by simp)) first ends more
  | cons d cs ih =>
    obtain ⟨text, texts, first, others, rfl⟩ := List.forall₂_cons_left_iff.mp written
    obtain ⟨text', texts', _, _, rfl⟩ := List.forall₂_cons_left_iff.mp others
    have behind := ih (fun e member => words e (List.mem_cons_of_mem _ member)) others
    rw [String.intercalate_cons_cons]
    simp only [String.toList_append, List.append_assoc, junctionTokens, furtherTokens, List.flatMap_cons,
      List.cons_append] at behind ⊢
    exact condition (words c (by simp)) first (blank _) (Cuts.space (Cuts.word known (blank _) (Cuts.space behind)))

end Cuts

theorem conditions_eq_mapM (subject : String) (cs : List Criterion) :
    conditions subject cs = cs.mapM (condition subject) := by
  induction cs with
  | nil => rfl
  | cons c cs ih => rw [conditions, List.mapM_cons, ih]

theorem condition_nonempty {subject : String} {c : Criterion} {text : String}
    (written : condition subject c = .ok text) : text ≠ "" := by
  rintro rfl
  unfold condition at written
  split at written <;> try split at written
  all_goals simp at written

theorem intercalate_isEmpty {subject sep : String} {cs : List Criterion} {texts : List String}
    (written : List.Forall₂ (fun c text => condition subject c = .ok text) cs texts) :
    (sep.intercalate texts).isEmpty = cs.isEmpty := by
  cases written with
  | nil => simp
  | @cons c text cs texts first others =>
    have nonempty := condition_nonempty first
    cases texts with
    | nil => simp [nonempty]
    | cons text' texts => simp [String.intercalate_cons_cons, nonempty]

/-- The text of a clause is cut into the tokens of its conditions, whatever stands behind it. -/
theorem Cuts.clauseBefore {subject : String} {c : Criteria} (wordsAll : ∀ d ∈ c.all, IsWord d.property)
    (wordsAny : ∀ d ∈ c.any, IsWord d.property) {text : String} (written : Sql.clause subject c = .ok text)
    {rest : List Char} {tokens : List Token} (ends : Ends rest) (more : Cuts rest tokens) :
    Cuts (text.toList ++ rest) (clauseTokens c ++ tokens) := by
  simp only [Sql.clause, conditions_eq_mapM, bind_eq_ok_iff] at written
  obtain ⟨all, writtenAll, any, writtenAny, joined⟩ := written
  rw [mapM_eq_ok_iff] at writtenAll writtenAny
  rw [intercalate_isEmpty writtenAll, intercalate_isEmpty writtenAny] at joined
  unfold clauseTokens
  cases declaredAll : c.all with
  | nil =>
    cases declaredAny : c.any with
    | nil =>
      rw [declaredAll, declaredAny] at joined
      cases joined
      exact more
    | cons d ds =>
      rw [declaredAll, declaredAny] at joined
      cases joined
      rw [declaredAny] at writtenAny wordsAny
      exact Cuts.junction (by decide : IsWord "OR") wordsAny writtenAny ends more
  | cons e es =>
    rw [declaredAll] at writtenAll wordsAll
    cases declaredAny : c.any with
    | nil =>
      rw [declaredAll, declaredAny] at joined
      cases joined
      exact Cuts.junction (by decide : IsWord "AND") wordsAll writtenAll ends more
    | cons d ds =>
      rw [declaredAll, declaredAny] at joined
      cases joined
      rw [declaredAny] at writtenAny wordsAny
      have inside := Cuts.junction (by decide : IsWord "OR") wordsAny writtenAny (Ends.cons (by decide))
        (Cuts.closing more)
      have behind := Cuts.space (Cuts.word (by decide : IsWord "AND") (Cuts.blank _)
        (Cuts.space (Cuts.opening inside)))
      have whole := Cuts.junction (by decide : IsWord "AND") wordsAll writtenAll (Cuts.blank _) behind
      show Cuts ((" AND ".intercalate all ++ " AND (" ++ " OR ".intercalate any ++ ")").toList ++ rest) _
      simp only [String.toList_append, List.append_assoc, List.cons_append, List.nil_append] at whole ⊢
      exact whole

/-- The text of a clause is cut into the tokens of its conditions. -/
theorem Cuts.clause {subject : String} {c : Criteria} (wordsAll : ∀ d ∈ c.all, IsWord d.property)
    (wordsAny : ∀ d ∈ c.any, IsWord d.property) {text : String} (written : Sql.clause subject c = .ok text) :
    Cuts text.toList (clauseTokens c) := by
  simpa using Cuts.clauseBefore wordsAll wordsAny written Ends.nil Cuts.nil

end AttributeStore.Sql
