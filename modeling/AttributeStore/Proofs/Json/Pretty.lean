import AttributeStore.Json.Codec
import AttributeStore.Proofs.Json.Scanning

/-! Written JSON and how it is read again. A text that a value is written as is read as this value, but for what stands
below level 127, which no reader opens. -/
namespace AttributeStore.Json

/-- A double that is read from its own text. Only a finite one can be, and few are not. -/
def ReadsBack (x : Float) : Prop := Codec.f64.ofText (Decimal.json x) = .ok x

theorem readsBack_iff (x : Float) : ReadsBack x ↔ (Codec.f64.ofText (Decimal.json x)).toOption = some x := by
  unfold ReadsBack
  cases Codec.f64.ofText (Decimal.json x) <;> simp [Except.toOption]

instance : DecidablePred ReadsBack := fun x => decidable_of_iff _ (readsBack_iff x).symm

mutual

/-- A value whose numbers are read from their own texts. -/
def Legible : Json → Prop
  | .int n => Int64.minValue.toInt ≤ n ∧ n < UInt64.size
  | .float x => ReadsBack x
  | .arr items => LegibleItems items
  | .obj fields => LegibleFields fields
  | _ => True

def LegibleItems : List Json → Prop
  | [] => True
  | item :: rest => item.Legible ∧ LegibleItems rest

def LegibleFields : List (String × Json) → Prop
  | [] => True
  | (_, value) :: rest => value.Legible ∧ LegibleFields rest

end

mutual

/-- A value as it is read on a level. -/
def readingAt (depth : Nat) : Json → Reading
  | .null => .null
  | .bool b => .bool b
  | .int n => .int n
  | .float x => .float x
  | .str s => .str s
  | .arr items => sealed depth (.arr (readingsAt (depth + 1) items))
  | .obj fields => sealed depth (.obj (fieldReadingsAt (depth + 1) fields))

def readingsAt (depth : Nat) : List Json → List Reading
  | [] => []
  | item :: rest => item.readingAt depth :: readingsAt depth rest

def fieldReadingsAt (depth : Nat) : List (String × Json) → List (String × Reading)
  | [] => []
  | (name, value) :: rest => (name, value.readingAt depth) :: fieldReadingsAt depth rest

end

theorem readingsAt_eq_map (depth : Nat) (items : List Json) : readingsAt depth items = items.map (readingAt depth) := by
  induction items with
  | nil => rfl
  | cons item rest ih => rw [readingsAt, List.map_cons, ih]

theorem fieldReadingsAt_eq_map (depth : Nat) (fields : List (String × Json)) :
    fieldReadingsAt depth fields = fields.map fun f => (f.1, f.2.readingAt depth) := by
  induction fields with
  | nil => rfl
  | cons f rest ih => rw [fieldReadingsAt, List.map_cons, ih]

theorem legibleItems_iff (items : List Json) : LegibleItems items ↔ ∀ item ∈ items, item.Legible := by
  induction items with
  | nil => simp [LegibleItems]
  | cons item rest ih => rw [LegibleItems, ih, List.forall_mem_cons]

theorem legibleFields_iff (fields : List (String × Json)) : LegibleFields fields ↔ ∀ f ∈ fields, f.2.Legible := by
  induction fields with
  | nil => simp [LegibleFields]
  | cons f rest ih => rw [LegibleFields, ih, List.forall_mem_cons]

/-! Scalars. -/

/-- Building goes on from where a token has led. -/
def resume (next : Next) (tokens : List Token) : Reading × Option Stop :=
  match next with
  | .go place frames => build place frames tokens
  | .done r => (r, if tokens.isEmpty then none else some .malformed)
  | .cut r => (r, none)

theorem build_cons (place : Place) (frames : List Frame) (t : Token) (tokens : List Token) :
    build place frames (t :: tokens) = resume (next place t frames) tokens := rfl

/-- Where a value may begin. -/
def Place.IsOpen : Place → Prop
  | .value | .valueOrClose => True
  | _ => False

theorem Place.isOpen_value : Place.value.IsOpen := trivial

theorem Place.isOpen_valueOrClose : Place.valueOrClose.IsOpen := trivial

theorem next_scalar {place : Place} (isOpen : place.IsOpen) {t : Token} {r : Reading} (known : t.scalar? = some r)
    (frames : List Frame) : next place t frames = settle r frames := by
  have scalar : scalar t frames = settle r frames := by rw [scalar, known]
  cases place with
  | value => cases t <;> first | exact scalar | cases known
  | valueOrClose => cases t <;> first | exact scalar | cases known
  | _ => exact isOpen.elim

theorem value?_of_isPointed {f : Decimal.Form} (pointed : f.IsPointed) :
    f.numeral.value? = f.numeral.float?.map .float := by
  have marked : (f.numeral.fraction.isSome || f.numeral.power.isSome) = true := by
    rw [Bool.or_eq_true]
    exact pointed.imp id fun power => by rw [Decimal.Form.numeral, Option.isSome_map]; exact power
  rw [Decimal.Numeral.value?, if_pos marked]

theorem scan_float {x : Float} (back : ReadsBack x) : ∃ t : Token, t.scalar? = some (.float x) ∧
    ∀ rest, Ends rest → scanFrom .between ((Decimal.json x).toList ++ rest) = t :: scanFrom .between rest := by
  by_cases finite : x.isFinite = true
  · obtain ⟨f, proper, pointed, written⟩ := Decimal.jsonNotation.render_form x
    have text : Decimal.json x = Decimal.jsonNotation.render x := if_pos finite
    have value := value?_of_isPointed (pointed rfl)
    refine ⟨.number f.numeral, ?_, fun rest ends => by rw [text, written, scan_number proper ends]⟩
    -- the text by itself is read as one number, which is a double and no other than `x`
    have alone : read (Decimal.json x) = resume (scalar (.number f.numeral) []) [] := by
      have scanned := scan_number proper Ends.nil
      rw [List.append_nil] at scanned
      rw [read, scan, text, written, scanned]
      rfl
    unfold ReadsBack Codec.ofText at back
    rw [alone] at back
    rw [Token.scalar?, value]
    rw [scalar, Token.scalar?, value] at back
    cases known : f.numeral.float? with
    | none =>
      rw [known] at back
      cases back
    | some y =>
      rw [known] at back
      cases back
      rfl
  · have text : Decimal.json x = "null" := if_neg finite
    rw [ReadsBack, text] at back
    cases back

theorem scan_int {n : Int} (bounded : Int64.minValue.toInt ≤ n ∧ n < UInt64.size) :
    ∃ t : Token, t.scalar? = some (.int n) ∧
      ∀ rest, Ends rest → scanFrom .between ((toString n).toList ++ rest) = t :: scanFrom .between rest := by
  have proper : (⟨decide (n < 0), (toString n.natAbs).toList, none, none⟩ : Decimal.Form).Proper :=
    ⟨Decimal.isWhole_toString n.natAbs, nofun, nofun⟩
  have text : (toString n).toList = (⟨decide (n < 0), (toString n.natAbs).toList, none, none⟩ : Decimal.Form).text := by
    rw [Decimal.toString_int]
    by_cases negative : n < 0 <;> simp [Decimal.Form.text, Decimal.Form.fractionText, Decimal.Form.powerText, negative]
  refine ⟨_, ?_, fun rest ends => by rw [text, scan_number proper ends]⟩
  obtain ⟨low, high⟩ := bounded
  have digits := Decimal.digitsValue_toString n.natAbs
  simp only [Token.scalar?, Decimal.Form.numeral, Decimal.Numeral.value?, Option.map_none, digits, Option.isSome_none,
    Bool.or_false, Bool.false_eq_true, if_false]
  by_cases negative : n < 0
  · have value : -(n.natAbs : Int) = n := by omega
    have nonzero : n.natAbs ≠ 0 := by omega
    have low : -9223372036854775808 ≤ n := low
    generalize n.natAbs = k at value nonzero ⊢
    simp [negative, value, nonzero, low]
  · have value : (n.natAbs : Int) = n := by omega
    have below : n.natAbs < UInt64.size := by omega
    generalize n.natAbs = k at value below ⊢
    simp [negative, value, below]

/-- A value that is neither list nor object. -/
def IsScalar : Json → Prop
  | .arr _ | .obj _ => False
  | _ => True

theorem scan_scalar {v : Json} (isScalar : v.IsScalar) (legible : v.Legible) (depth : Nat) :
    ∃ t : Token, t.scalar? = some (v.readingAt depth) ∧
      ∀ rest, Ends rest → scanFrom .between (v.scalarText.toList ++ rest) = t :: scanFrom .between rest := by
  cases v with
  | null => exact ⟨.word .null, rfl, fun _ _ => rfl⟩
  | bool b => cases b <;> exact ⟨_, rfl, fun _ _ => rfl⟩
  | int n => exact scan_int legible
  | float x => exact scan_float legible
  | str s => exact ⟨.text s, rfl, fun rest _ => scan_quote s rest⟩
  | arr items => exact isScalar.elim
  | obj fields => exact isScalar.elim

/-! Lists and objects. -/

theorem scan_newline (depth : Nat) (rest : List Char) :
    scanFrom .between ((newline depth).toList ++ rest) = scanFrom .between rest := by
  have blanks (n : Nat) : scanFrom .between (List.replicate n ' ' ++ rest) = scanFrom .between rest := by
    induction n with
    | zero => rfl
    | succ n ih => rw [List.replicate_succ, List.cons_append, scan_space (by decide), ih]
  have text : (newline depth).toList ++ rest = '\n' :: (List.replicate (2 * depth) ' ' ++ rest) := by simp [newline]
  rw [text, scan_space (by decide), blanks]

theorem ends_newline (depth : Nat) (rest : List Char) : Ends ((newline depth).toList ++ rest) := by
  rw [newline, String.toList_append]
  exact Ends.cons (by decide)

theorem ends_comma (rest : List Char) : Ends (',' :: rest) := Ends.cons (by decide)

theorem build_scalar {v : Json} (isScalar : v.IsScalar) (legible : v.Legible) {place : Place} (isOpen : place.IsOpen)
    (frames : List Frame) {rest : List Char} (ends : Ends rest) :
    build place frames (scanFrom .between (v.scalarText.toList ++ rest)) =
      resume (settle (v.readingAt frames.length) frames) (scanFrom .between rest) := by
  obtain ⟨t, known, scanned⟩ := scan_scalar isScalar legible frames.length
  rw [scanned rest ends, build_cons, next_scalar isOpen known]

theorem build_name (done : List (String × Reading)) (before name : String) (outer : List Frame) {place : Place}
    (here : place = .name ∨ place = .nameOrClose) (rest : List Char) :
    build place (.obj done before :: outer) (scanFrom .between ((quote name).toList ++ ':' :: ' ' :: rest)) =
      build .value (.obj done name :: outer) (scanFrom .between rest) := by
  have colon : scanFrom .between (':' :: ' ' :: rest) = .colon :: scanFrom .between rest := by
    rw [scanFrom_cons]
    exact congrArg _ (scan_space (by decide) rest)
  rw [scan_quote, colon]
  rcases here with rfl | rfl <;> rfl

theorem build_open_arr {place : Place} (isOpen : place.IsOpen) (frames : List Frame) (rest : List Char) :
    build place frames (scanFrom .between ('[' :: rest)) =
      build .valueOrClose (.arr [] :: frames) (scanFrom .between rest) := by
  cases place with
  | value | valueOrClose => rfl
  | _ => exact isOpen.elim

theorem build_open_obj {place : Place} (isOpen : place.IsOpen) (frames : List Frame) (rest : List Char) :
    build place frames (scanFrom .between ('\x7b' :: rest)) =
      build .nameOrClose (.obj [] "" :: frames) (scanFrom .between rest) := by
  cases place with
  | value | valueOrClose => rfl
  | _ => exact isOpen.elim

mutual

/-- A written value is one value to the builder, wherever it may stand. -/
theorem build_pretty (v : Json) (legible : v.Legible) {place : Place} (isOpen : place.IsOpen) (frames : List Frame)
    (indent : Nat) {rest : List Char} (ends : Ends rest) :
    build place frames (scanFrom .between ((v.prettyAt indent).toList ++ rest)) =
      resume (settle (v.readingAt frames.length) frames) (scanFrom .between rest) :=
  match v with
  | .null => build_scalar (v := .null) trivial legible isOpen frames ends
  | .bool b => build_scalar (v := .bool b) trivial legible isOpen frames ends
  | .int n => build_scalar (v := .int n) trivial legible isOpen frames ends
  | .float x => build_scalar (v := .float x) trivial legible isOpen frames ends
  | .str s => build_scalar (v := .str s) trivial legible isOpen frames ends
  | .arr [] => by
    have text : ((Json.arr []).prettyAt indent).toList ++ rest = '[' :: ']' :: rest := by simp [prettyAt]
    rw [text, build_open_arr isOpen]
    rfl
  | .arr (item :: items) => by
    have inside := build_items (item :: items) legible nofun Place.isOpen_valueOrClose [] frames indent
      (ends_newline indent (']' :: rest))
    have text : ((Json.arr (item :: items)).prettyAt indent).toList ++ rest =
        '[' :: ((prettyItems indent (item :: items)).toList ++ ((newline indent).toList ++ ']' :: rest)) := by
      simp [prettyAt]
    rw [text, build_open_arr isOpen, inside, scan_newline, List.append_nil]
    show build .commaOrClose _ (.closeArr :: scanFrom .between rest) = _
    rw [build_cons]
    dsimp only [next]
    rw [List.reverse_reverse, readingAt]
  | .obj [] => by
    have text : ((Json.obj []).prettyAt indent).toList ++ rest = '\x7b' :: '\x7d' :: rest := by simp [prettyAt]
    rw [text, build_open_obj isOpen]
    rfl
  | .obj (field :: fields) => by
    have inside := build_fields (field :: fields) legible nofun (.inr (Eq.refl Place.nameOrClose)) [] "" frames indent
      (ends_newline indent ('\x7d' :: rest))
    have text : ((Json.obj (field :: fields)).prettyAt indent).toList ++ rest =
        '\x7b' :: ((prettyFields indent (field :: fields)).toList ++ ((newline indent).toList ++ '\x7d' :: rest)) := by
      simp [prettyAt]
    rw [text, build_open_obj isOpen, inside, scan_newline, List.append_nil]
    show build .commaOrClose _ (.closeObj :: scanFrom .between rest) = _
    rw [build_cons]
    dsimp only [next]
    rw [List.reverse_reverse, readingAt]

theorem build_items (items : List Json) (legible : LegibleItems items) (nonempty : items ≠ []) {place : Place}
    (isOpen : place.IsOpen) (done : List Reading) (outer : List Frame) (indent : Nat) {rest : List Char}
    (ends : Ends rest) :
    build place (.arr done :: outer) (scanFrom .between ((prettyItems indent items).toList ++ rest)) =
      build .commaOrClose (.arr ((readingsAt (outer.length + 1) items).reverse ++ done) :: outer)
        (scanFrom .between rest) :=
  match items with
  | [] => absurd rfl nonempty
  | [item] => by
    have first := build_pretty item legible.1 isOpen (.arr done :: outer) (indent + 1) ends
    rw [prettyItems, String.toList_append, List.append_assoc, scan_newline, first]
    rfl
  | item :: next :: items => by
    have first := build_pretty item legible.1 isOpen (.arr done :: outer) (indent + 1)
      (ends_comma ((prettyItems indent (next :: items)).toList ++ rest))
    have others := build_items (next :: items) legible.2 nofun Place.isOpen_value
      (item.readingAt (outer.length + 1) :: done) outer indent ends
    have text : (prettyItems indent (item :: next :: items)).toList ++ rest = (newline (indent + 1)).toList ++
        ((item.prettyAt (indent + 1)).toList ++ ',' :: ((prettyItems indent (next :: items)).toList ++ rest)) := by
      simp [prettyItems]
    rw [text, scan_newline, first]
    refine others.trans ?_
    simp [readingsAt]

theorem build_fields (fields : List (String × Json)) (legible : LegibleFields fields) (nonempty : fields ≠ [])
    {place : Place} (here : place = .name ∨ place = .nameOrClose) (done : List (String × Reading)) (before : String)
    (outer : List Frame) (indent : Nat) {rest : List Char} (ends : Ends rest) :
    build place (.obj done before :: outer) (scanFrom .between ((prettyFields indent fields).toList ++ rest)) =
      build .commaOrClose (.obj ((fieldReadingsAt (outer.length + 1) fields).reverse ++ done) "" :: outer)
        (scanFrom .between rest) :=
  match fields with
  | [] => absurd rfl nonempty
  | [(name, value)] => by
    have first := build_pretty value legible.1 Place.isOpen_value (.obj done name :: outer) (indent + 1) ends
    have text : (prettyFields indent [(name, value)]).toList ++ rest = (newline (indent + 1)).toList ++
        ((quote name).toList ++ ':' :: ' ' :: ((value.prettyAt (indent + 1)).toList ++ rest)) := by
      simp [prettyFields]
    rw [text, scan_newline, build_name done before name outer here, first]
    rfl
  | (name, value) :: next :: fields => by
    have first := build_pretty value legible.1 Place.isOpen_value (.obj done name :: outer) (indent + 1)
      (ends_comma ((prettyFields indent (next :: fields)).toList ++ rest))
    have others := build_fields (next :: fields) legible.2 nofun (.inl (Eq.refl Place.name))
      ((name, value.readingAt (outer.length + 1)) :: done) "" outer indent ends
    have text : (prettyFields indent ((name, value) :: next :: fields)).toList ++ rest =
        (newline (indent + 1)).toList ++ ((quote name).toList ++ ':' :: ' ' :: ((value.prettyAt (indent + 1)).toList ++
          ',' :: ((prettyFields indent (next :: fields)).toList ++ rest))) := by
      simp [prettyFields]
    rw [text, scan_newline, build_name done before name outer here, first]
    refine others.trans ?_
    simp [fieldReadingsAt]

end

/-- A written value is read as itself, as far as readers go. -/
theorem read_pretty {v : Json} (legible : v.Legible) : read v.pretty = (v.readingAt 0, none) := by
  have built := build_pretty v legible Place.isOpen_value [] 0 Ends.nil
  rw [List.append_nil] at built
  exact built

end AttributeStore.Json
