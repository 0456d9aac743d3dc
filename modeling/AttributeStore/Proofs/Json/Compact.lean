import AttributeStore.Proofs.Json.Pretty

/-! The two written forms of a value are the same tokens, so they are read alike. -/
namespace AttributeStore.Json

/-- Texts that a token may end before, and that are the same tokens. -/
structure SameTokens (rest rest' : List Char) : Prop where
  ends : Ends rest
  ends' : Ends rest'
  same : scanFrom .between rest = scanFrom .between rest'

/-- A mark that is a token of its own. -/
theorem scan_single {c : Char} {t : Token} (single : begin c = ([t], .between)) (rest : List Char) :
    scanFrom .between (c :: rest) = t :: scanFrom .between rest := by
  rw [scanFrom_cons]
  show (begin c).1 ++ scanFrom (begin c).2 rest = _
  rw [single]
  rfl

variable {rest rest' : List Char}

theorem SameTokens.comma (same : scanFrom .between rest = scanFrom .between rest') :
    SameTokens (',' :: rest) (',' :: rest') :=
  ⟨ends_comma rest, ends_comma rest', by rw [scan_single rfl, scan_single rfl, same]⟩

/-- What closes a list or an object may stand on a line of its own. -/
theorem SameTokens.close {c : Char} {t : Token} (single : begin c = ([t], .between))
    (mark : Text.isDigit c = false ∧ c ≠ '.' ∧ exponentMark c = false) (tokens : SameTokens rest rest') (depth : Nat) :
    SameTokens (c :: rest) ((newline depth).toList ++ c :: rest') :=
  ⟨Ends.cons mark, ends_newline depth _, by rw [scan_newline, scan_single single, scan_single single, tokens.same]⟩

theorem scan_scalar_same {v : Json} (isScalar : v.IsScalar) (legible : v.Legible) (tokens : SameTokens rest rest') :
    scanFrom .between (v.scalarText.toList ++ rest) = scanFrom .between (v.scalarText.toList ++ rest') := by
  obtain ⟨t, -, scanned⟩ := scan_scalar isScalar legible 0
  rw [scanned rest tokens.ends, scanned rest' tokens.ends', tokens.same]

/-- A blank behind a colon does not count. -/
theorem scan_named (name : String) (same : scanFrom .between rest = scanFrom .between rest') :
    scanFrom .between ((quote name).toList ++ ':' :: rest) =
      scanFrom .between ((quote name).toList ++ ':' :: ' ' :: rest') := by
  rw [scan_quote, scan_quote, scan_single rfl, scan_single rfl, scan_space (by decide), same]

mutual

theorem scan_compact (v : Json) (legible : v.Legible) (depth : Nat) {rest rest' : List Char}
    (tokens : SameTokens rest rest') :
    scanFrom .between (v.compact.toList ++ rest) = scanFrom .between ((v.prettyAt depth).toList ++ rest') :=
  match v with
  | .null => scan_scalar_same (v := .null) trivial legible tokens
  | .bool b => scan_scalar_same (v := .bool b) trivial legible tokens
  | .int n => scan_scalar_same (v := .int n) trivial legible tokens
  | .float x => scan_scalar_same (v := .float x) trivial legible tokens
  | .str s => scan_scalar_same (v := .str s) trivial legible tokens
  | .arr [] => by
    have compact : (Json.arr []).compact.toList ++ rest = '[' :: ']' :: rest := by
      simp [Json.compact, compactItems]
    have pretty : ((Json.arr []).prettyAt depth).toList ++ rest' = '[' :: ']' :: rest' := by simp [prettyAt]
    rw [compact, pretty, scan_single rfl, scan_single rfl, scan_single rfl, scan_single rfl, tokens.same]
  | .arr (item :: items) => by
    have inside := scan_compactItems (item :: items) legible nofun depth
      (tokens.close (c := ']') rfl (by decide) depth)
    have compact : (Json.arr (item :: items)).compact.toList ++ rest =
        '[' :: ((compactItems (item :: items)).toList ++ ']' :: rest) := by
      simp [Json.compact, String.toList_append]
    have pretty : ((Json.arr (item :: items)).prettyAt depth).toList ++ rest' =
        '[' :: ((prettyItems depth (item :: items)).toList ++ ((newline depth).toList ++ ']' :: rest')) := by
      simp [prettyAt]
    rw [compact, pretty, scan_single rfl, scan_single rfl, inside]
  | .obj [] => by
    have compact : (Json.obj []).compact.toList ++ rest = '\x7b' :: '\x7d' :: rest := by
      simp [Json.compact, compactFields]
    have pretty : ((Json.obj []).prettyAt depth).toList ++ rest' = '\x7b' :: '\x7d' :: rest' := by simp [prettyAt]
    rw [compact, pretty, scan_single rfl, scan_single rfl, scan_single rfl, scan_single rfl, tokens.same]
  | .obj (field :: fields) => by
    have inside := scan_compactFields (field :: fields) legible nofun depth
      (tokens.close (c := '\x7d') rfl (by decide) depth)
    have compact : (Json.obj (field :: fields)).compact.toList ++ rest =
        '\x7b' :: ((compactFields (field :: fields)).toList ++ '\x7d' :: rest) := by
      simp [Json.compact, String.toList_append]
    have pretty : ((Json.obj (field :: fields)).prettyAt depth).toList ++ rest' =
        '\x7b' :: ((prettyFields depth (field :: fields)).toList ++ ((newline depth).toList ++ '\x7d' :: rest')) := by
      simp [prettyAt]
    rw [compact, pretty, scan_single rfl, scan_single rfl, inside]

theorem scan_compactItems (items : List Json) (legible : LegibleItems items) (nonempty : items ≠ []) (depth : Nat)
    {rest rest' : List Char} (tokens : SameTokens rest rest') :
    scanFrom .between ((compactItems items).toList ++ rest) =
      scanFrom .between ((prettyItems depth items).toList ++ rest') :=
  match items with
  | [] => absurd rfl nonempty
  | [item] => by
    rw [compactItems, prettyItems, String.toList_append, List.append_assoc, scan_newline]
    exact scan_compact item legible.1 (depth + 1) tokens
  | item :: next :: items => by
    have others := scan_compactItems (next :: items) legible.2 nofun depth tokens
    have first := scan_compact item legible.1 (depth + 1) (.comma others)
    have compact : (compactItems (item :: next :: items)).toList ++ rest =
        item.compact.toList ++ ',' :: ((compactItems (next :: items)).toList ++ rest) := by
      simp [compactItems, String.toList_append]
    have pretty : (prettyItems depth (item :: next :: items)).toList ++ rest' = (newline (depth + 1)).toList ++
        ((item.prettyAt (depth + 1)).toList ++ ',' :: ((prettyItems depth (next :: items)).toList ++ rest')) := by
      simp [prettyItems]
    rw [compact, pretty, scan_newline, first]

theorem scan_compactFields (fields : List (String × Json)) (legible : LegibleFields fields) (nonempty : fields ≠ [])
    (depth : Nat) {rest rest' : List Char} (tokens : SameTokens rest rest') :
    scanFrom .between ((compactFields fields).toList ++ rest) =
      scanFrom .between ((prettyFields depth fields).toList ++ rest') :=
  match fields with
  | [] => absurd rfl nonempty
  | [(name, value)] => by
    have first := scan_compact value legible.1 (depth + 1) tokens
    have compact : (compactFields [(name, value)]).toList ++ rest =
        (quote name).toList ++ ':' :: (value.compact.toList ++ rest) := by
      simp [compactFields, String.toList_append]
    have pretty : (prettyFields depth [(name, value)]).toList ++ rest' = (newline (depth + 1)).toList ++
        ((quote name).toList ++ ':' :: ' ' :: ((value.prettyAt (depth + 1)).toList ++ rest')) := by
      simp [prettyFields]
    rw [compact, pretty, scan_newline, scan_named name first]
  | (name, value) :: next :: fields => by
    have others := scan_compactFields (next :: fields) legible.2 nofun depth tokens
    have first := scan_compact value legible.1 (depth + 1) (.comma others)
    have compact : (compactFields ((name, value) :: next :: fields)).toList ++ rest = (quote name).toList ++
        ':' :: (value.compact.toList ++ ',' :: ((compactFields (next :: fields)).toList ++ rest)) := by
      simp [compactFields, String.toList_append]
    have pretty : (prettyFields depth ((name, value) :: next :: fields)).toList ++ rest' =
        (newline (depth + 1)).toList ++ ((quote name).toList ++ ':' :: ' ' :: ((value.prettyAt (depth + 1)).toList ++
          ',' :: ((prettyFields depth (next :: fields)).toList ++ rest'))) := by
      simp [prettyFields]
    rw [compact, pretty, scan_newline, scan_named name first]

end

/-- A value on one line is read as itself, as far as readers go. -/
theorem read_compact {v : Json} (legible : v.Legible) : read v.compact = (v.readingAt 0, none) := by
  have same := scan_compact v legible 0 ⟨Ends.nil, Ends.nil, rfl⟩
  rw [List.append_nil, List.append_nil] at same
  rw [← read_pretty legible, read, read, scan, scan, same, pretty]

end AttributeStore.Json
