import AttributeStore.Proofs.Column.Resolution

/-! The spelling of names. Whatever a path is, its column is written in the characters of a bare SQL name; and a name
that is put together keeps the letter it begins with. -/
namespace AttributeStore.Column

theorem isNameChar_of_isDigit {c : Char} (digit : c.isDigit) : isNameChar c := by
  have ascii : Text.isDigit c := by
    simpa [Text.isDigit, Char.isDigit, Char.le_def] using digit
  simp [isNameChar, ascii]

theorem isDigit_letter {c : Char} (letter : Text.isLetter c) : Text.isDigit c = false := by
  simp only [Text.isLetter, Text.isDigit, Char.le_def, UInt32.le_iff_toNat_le] at letter ⊢
  simp at letter ⊢
  omega

theorem safe_isNameChar {s : List Char} : ∀ c ∈ safe s, isNameChar c := by
  intro c member
  obtain ⟨d, -, rfl⟩ := List.mem_map.mp member
  split
  · assumption
  · decide

theorem reservedWords_isNameChar : ∀ word ∈ reservedWords, word.toList.all isNameChar := by
  decide +kernel

theorem isReserved_isNameChar {name : String} (reserved : isReserved name) :
    ∀ c ∈ (String.ofList (Text.lowerAscii name.toList)).toList, isNameChar c := by
  rw [isReserved, List.contains_iff_mem] at reserved
  exact List.all_eq_true.mp (reservedWords_isNameChar _ reserved)

theorem ofPath_isNameChar (path : String) : ∀ c ∈ (ofPath path).toList, isNameChar c := by
  intro c member
  unfold ofPath at member
  dsimp only at member
  split at member
  case isTrue reserved =>
    rw [String.toList_append, List.mem_append] at member
    rcases member with lowered | mark
    · exact isReserved_isNameChar reserved c lowered
    · have marks : "_col".toList.all isNameChar := by decide
      exact List.all_eq_true.mp marks c mark
  case isFalse =>
    rw [String.toList_ofList] at member
    exact safe_isNameChar c member

/-- A number behind a name is written in digits. -/
theorem fresh_isNameChar {taken : List String} {name : String} (spelled : ∀ c ∈ name.toList, isNameChar c) :
    ∀ c ∈ (fresh taken name).toList, isNameChar c := by
  rcases fresh_eq_or taken name with same | ⟨k, numbered⟩
  · rwa [same]
  · intro c member
    rw [numbered, toList_numbered, List.mem_append, List.mem_cons] at member
    rcases member with first | rfl | digit
    · exact spelled c first
    · decide
    · exact isNameChar_of_isDigit (Nat.isDigit_of_mem_toDigits (by decide) (by decide) digit)

theorem resolveAfter_isNameChar {taken : List String} {bindings : List Binding}
    (spelled : ∀ b ∈ bindings, ∀ c ∈ b.name.toList, isNameChar c) :
    ∀ b ∈ resolveAfter taken bindings, ∀ c ∈ b.name.toList, isNameChar c := by
  induction bindings generalizing taken with
  | nil => simp [resolveAfter]
  | cons b rest ih =>
    simp only [List.forall_mem_cons, resolveAfter] at spelled ⊢
    exact ⟨fresh_isNameChar spelled.1, ih spelled.2⟩

theorem keepNameChars_isNameChar (s : List Char) : ∀ c ∈ keepNameChars s, isNameChar c :=
  fun _ member => (List.mem_filter.mp member).2

theorem sanitize_isNameChar (s : String) : ∀ c ∈ (sanitize s).toList, isNameChar c := by
  intro c member
  rw [sanitize, String.toList_ofList] at member
  have kept := keepNameChars_isNameChar (s.toList.map fun c => if c = '-' then '_' else c)
  split at member
  · rcases List.mem_cons.mp member with rfl | member
    · decide
    · rcases List.mem_cons.mp member with rfl | member
      · decide
      · exact kept c member
  · exact kept c member

theorem mem_sanitize {s : String} {c : Char} (member : c ∈ s.toList) (named : isNameChar c) (plain : c ≠ '-') :
    c ∈ (sanitize s).toList := by
  have kept : c ∈ keepNameChars (s.toList.map fun c => if c = '-' then '_' else c) :=
    List.mem_filter.mpr ⟨List.mem_map.mpr ⟨c, member, if_neg plain⟩, named⟩
  rw [sanitize, String.toList_ofList]
  split
  · exact List.mem_cons_of_mem _ (List.mem_cons_of_mem _ kept)
  · exact kept

/-- What a text begins with stays in front, if it is a name that begins with a letter. -/
theorem sanitize_prefix {s : String} {c : Char} {front rest : List Char} (split : s.toList = c :: front ++ rest)
    (letter : Text.isLetter c) (spelled : ∀ d ∈ front, isNameChar d) :
    ∃ more, (sanitize s).toList = c :: front ++ more := by
  have named : ∀ d ∈ c :: front, isNameChar d := List.forall_mem_cons.mpr ⟨by simp [isNameChar, letter], spelled⟩
  have plain : (c :: front).map (fun d => if d = '-' then '_' else d) = c :: front := by
    refine (List.map_congr_left fun d member => ?_).trans (List.map_id _)
    refine if_neg ?_
    rintro rfl
    exact absurd (named '-' member) (by decide)
  rw [sanitize, String.toList_ofList, split, List.map_append, plain, keepNameChars, List.filter_append,
    List.filter_eq_self.mpr named]
  simp [isDigit_letter letter]

/-- A name that is put together begins with its aggregation. -/
theorem fullName_prefix (a : Attribute) {aggregation : String} (property : Option String) {c : Char} {rest : List Char}
    (split : aggregation.toList = c :: rest) (letter : Text.isLetter c) (spelled : ∀ d ∈ rest, isNameChar d) :
    ∃ more, (fullName a aggregation property).toList = aggregation.toList ++ more := by
  have joined (parts : List String) :
      ∃ more, ("_".intercalate (aggregation :: parts)).toList = c :: rest ++ more := by
    cases parts with
    | nil => exact ⟨[], by simp [split]⟩
    | cons next parts =>
      rw [String.intercalate_cons_cons, String.toList_append, String.toList_append, split, List.append_assoc]
      exact ⟨_, rfl⟩
  unfold fullName
  rw [List.cons_append, List.cons_append, split]
  obtain ⟨more, joined⟩ := joined (property.toList ++ a.events.map (·.name) ++ a.activeCriteria.toList.map ofCriteria)
  exact sanitize_prefix joined letter spelled

end AttributeStore.Column
