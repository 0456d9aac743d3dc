import AttributeStore.Proofs.Column.Bare
import AttributeStore.Proofs.Plan.ColumnBinding

/-! Columns that can stand bare. What attributes hand to the models are the cleaned names of paths and the names of
days. They are never reserved; a name of days is bare unless it is too long to be put together, and a cleaned name is
bare if anything is left of its path that does not begin with a digit. -/
namespace AttributeStore

namespace Column

/-- A column made from a path. It is a bare name if the path leaves one that does not begin with a digit. -/
structure Suits (path name : String) : Prop where
  spelled : ∀ c ∈ name.toList, isNameChar c
  free : ¬isReserved name
  bare : HasName path → (∀ c ∈ (ofPath path).toList.head?, ¬Text.isDigit c) → IsBare name

theorem suits_of_origin {path name : String} (origin : name = ofPath path ∨ ∃ k : Nat, name = s!"{ofPath path}_{k}")
    (spelled : ∀ c ∈ name.toList, isNameChar c) : Suits path name := by
  have free : ¬isReserved name := by
    rcases origin with same | ⟨k, numbered⟩
    · rw [same]
      exact ofPath_free path
    · rw [numbered]
      exact numbered_free _ k
  refine ⟨spelled, free, fun named undigited => ?_⟩
  obtain ⟨c, rest, split⟩ := List.exists_cons_of_ne_nil (mt String.toList_eq_nil_iff.mp named)
  have begins : ∃ more, name.toList = c :: more := by
    rcases origin with same | ⟨k, numbered⟩
    · exact ⟨rest, same ▸ split⟩
    · rw [numbered, toList_numbered, split]
      exact ⟨_, rfl⟩
  obtain ⟨more, begins⟩ := begins
  refine ⟨?_, spelled, ?_, free⟩
  · intro empty
    rw [empty] at begins
    cases begins
  · rw [begins]
    rwa [split] at undigited

namespace Tidy

variable {bindings : List Binding}

theorem resolve_suits (tidy : Tidy bindings) {b : Binding} (member : b ∈ resolve bindings) : Suits b.path b.name := by
  obtain ⟨c, listed, path, origin⟩ := resolveAfter_origin member
  rw [tidy.name_eq listed, path] at origin
  exact suits_of_origin origin (tidy.resolve_isNameChar b member)

theorem columnIn_suits (tidy : Tidy bindings) (path : String) : Suits path (columnIn bindings path) := by
  rcases columnIn_cases bindings path with free | ⟨b, member, rfl, bound⟩
  · exact suits_of_origin (.inl free) (tidy.columnIn_isNameChar path)
  · rw [bound]
    exact tidy.resolve_suits member

end Tidy

end Column

namespace Attribute

variable {a : Attribute} {fold : Fold}

/-- The name of an attribute's days is bare, or it is the attribute's own because none could be put together. -/
theorem dailyColumn_bare {property : Option String} {name : String}
    (spelled : ∀ column ∈ property, ∀ c ∈ column.toList, Column.isNameChar c)
    (named : a.dailyColumn fold property = .ok name) :
    (fold.isPositional ∨ (Column.fullName a fold.name property).utf8ByteSize ≤ Column.maxLength →
      Column.IsBare name) ∧
    (¬fold.isPositional → Column.maxLength < (Column.fullName a fold.name property).utf8ByteSize → name = a.name) := by
  unfold dailyColumn at named
  split at named
  case isTrue positional =>
    refine ⟨fun _ => ?_, fun folds => absurd positional folds⟩
    cases property with
    | none => cases named
    | some column =>
      obtain rfl := Except.ok.inj named
      have begins : (s!"{fold.name}_{column}" : String).toList = fold.name.toList ++ '_' :: column.toList := by
        simp [toString, String.toList_append]
      refine Column.isBare_of_fold begins ?_
      rw [begins]
      refine List.forall_mem_append.mpr ⟨fold.name_isNameChar, List.forall_mem_cons.mpr ⟨by decide, ?_⟩⟩
      exact spelled column rfl
  case isFalse folds =>
    obtain rfl := Except.ok.inj named
    unfold Column.daily
    dsimp only
    split
    case isTrue long => exact ⟨fun short => absurd (short.resolve_left folds) (Nat.not_le.mpr long), fun _ _ => rfl⟩
    case isFalse short =>
      obtain ⟨more, begins⟩ := Column.fullName_fold a fold property
      exact ⟨fun _ => Column.isBare_of_fold begins (Column.sanitize_isNameChar _), fun _ long => absurd long short⟩

end Attribute

/-- What the models are handed as columns: the properties, and of each plan the folded column, the columns of its
conditions and the name of its days. -/
structure Blueprint.HasBareColumns (b : Blueprint) : Prop where
  properties : ∀ e ∈ b.properties, Column.IsBare e.name
  filtered : ∀ p ∈ b.plans, ∀ name ∈ p.filtered.column, Column.IsBare name
  conditions : ∀ p ∈ b.plans, ∀ criteria ∈ p.daily.criteria, ∀ c ∈ criteria.all ++ criteria.any,
    Column.IsBare c.property
  daily : ∀ p ∈ b.plans, ∀ name ∈ p.daily.column, Column.IsBare name

/-- The columns of a plan. Its first condition is on the names of events, which is bare; the others are those that the
attribute declares, in their order, each on a column made from its own path. Its days are named bare, unless the name
put together for them is too long: then they are called like the attribute. -/
structure Plan.SuitsAttribute (p : Plan) (a : Attribute) : Prop where
  filtered : ∀ name ∈ p.filtered.column, ∃ path ∈ a.propertyPath, Column.Suits path name
  conditions : ∃ criteria others, p.daily.criteria = some criteria ∧
    criteria.all ++ criteria.any = a.eventCondition :: others ∧ Column.IsBare a.eventCondition.property ∧
    List.Forall₂ (fun d c => c = { d with property := c.property } ∧ Column.Suits d.property c.property)
      a.declared others
  daily : ∃ fold name, a.fold = .ok fold ∧ p.daily.column = some name ∧
    (fold.isPositional ∨ (Column.fullName a fold.name p.filtered.column).utf8ByteSize ≤ Column.maxLength →
      Column.IsBare name) ∧
    (¬fold.isPositional → Column.maxLength < (Column.fullName a fold.name p.filtered.column).utf8ByteSize →
      name = a.name)

theorem eventNameColumn_bare : Column.IsBare eventNameColumn :=
  ⟨by decide, by decide, by decide, by decide⟩

theorem Attribute.suits_of_planIn {a : Attribute} {bindings : List Column.Binding} {p : Plan}
    (tidy : Column.Tidy bindings) (planned : a.planIn bindings = .ok p) : p.SuitsAttribute a := by
  obtain ⟨fold, name, known, -, named, rfl⟩ := planIn_eq_ok_iff.mp planned
  constructor
  case filtered =>
    intro name handed
    obtain ⟨path, declared, rfl⟩ := Option.map_eq_some_iff.mp handed
    exact ⟨path, declared, tidy.columnIn_suits path⟩
  case conditions =>
    refine ⟨_, _, rfl, criteriaIn_conditions a bindings, eventNameColumn_bare, ?_⟩
    rw [List.forall₂_map_right_iff, List.forall₂_same]
    intro d _
    exact ⟨rfl, tidy.columnIn_suits d.property⟩
  case daily =>
    refine ⟨fold, name, known, rfl, dailyColumn_bare ?_ named⟩
    intro column handed
    obtain ⟨path, -, rfl⟩ := Option.map_eq_some_iff.mp handed
    exact (tidy.columnIn_suits path).spelled

/-- Every column that compiled attributes hand to the models suits the path or the attribute that it is made from. -/
theorem Blueprint.columns_suit {attributes : List Attribute} {entityKey : String} {b : Blueprint}
    (compiled : ofAttributes attributes entityKey = .ok b) :
    (∀ e ∈ b.properties, Column.Suits e.path e.name) ∧
      List.Forall₂ (fun a p => p.SuitsAttribute a) attributes b.plans := by
  obtain ⟨plans, planned, rfl⟩ := ofAttributes_eq_ok_iff.mp compiled
  have tidy := Ledger.enterAll_tidy attributes
  exact ⟨fun e member => tidy.resolve_suits member, planned.imp fun a p plan => Attribute.suits_of_planIn tidy plan⟩

/-- Both paths of an attribute end alike; every column that it hands over can stand bare. -/
theorem Blueprint.columns_suit_known_user : ∃ b, ofAttributes [lastPageOfKnownUser] "user_key" = .ok b ∧
    b.properties = [⟨"page.id", "id"⟩, ⟨"user.id", "id_2"⟩] ∧ (∀ e ∈ b.properties, Column.IsBare e.name) ∧
    ∀ p ∈ b.plans, ∃ criteria, p.daily.criteria = some criteria ∧
      ∀ c ∈ criteria.all ++ criteria.any, Column.IsBare c.property := by
  have run : ((ofAttributes [lastPageOfKnownUser] "user_key").map (·.properties)).toOption =
      some [⟨"page.id", "id"⟩, ⟨"user.id", "id_2"⟩] := by decide +kernel
  obtain ⟨b, compiled, properties⟩ := map_eq_ok_iff.mp (eq_ok_of_toOption run)
  obtain ⟨bound, planned⟩ := columns_suit compiled
  have bare {path name : String} (suits : Column.Suits path name) (cleaned : Column.ofPath path = "id") :
      Column.IsBare name := by
    refine suits.bare ?_ ?_
    · rw [Column.HasName, cleaned]
      decide
    · rw [cleaned]
      decide
  have cleaned : Column.ofPath "page.id" = "id" ∧ Column.ofPath "user.id" = "id" := by decide +kernel
  refine ⟨b, compiled, properties, fun e member => ?_, fun p listed => ?_⟩
  · have suits := bound e member
    rw [properties, List.mem_cons, List.mem_singleton] at member
    rcases member with rfl | rfl
    · exact bare suits cleaned.1
    · exact bare suits cleaned.2
  · obtain ⟨p', rest, suits, none, plans⟩ := List.forall₂_cons_left_iff.mp planned
    rw [plans, List.forall₂_nil_left_iff.mp none, List.mem_singleton] at listed
    subst listed
    obtain ⟨criteria, others, handed, listed, event, declared⟩ := suits.conditions
    refine ⟨criteria, handed, ?_⟩
    rw [show lastPageOfKnownUser.declared =
      [⟨"user.id", .notEq, .str "anonymous"⟩, ⟨"page.id", .like, .str "home"⟩] from rfl] at declared
    obtain ⟨_, _, ⟨-, user⟩, behind, rfl⟩ := List.forall₂_cons_left_iff.mp declared
    obtain ⟨_, _, ⟨-, page⟩, last, rfl⟩ := List.forall₂_cons_left_iff.mp behind
    rw [listed, List.forall₂_nil_left_iff.mp last, List.forall_mem_cons, List.forall_mem_cons,
      List.forall_mem_singleton]
    exact ⟨event, bare user cleaned.2, bare page cleaned.1⟩

/-- Page views under an event name that leaves no room for a name of days, the last value of a path without an end, and
that of a path that ends in a number. -/
def oddlyNamed : List Attribute :=
  let views := [⟨"com.acme", "page_view", "1-0-0"⟩]
  [.ofEvents "page views" .counter
      [⟨"com.acme", "page_view_of_a_visitor_who_came_back_after_more_than_thirty_days", "1-0-0"⟩],
    { Attribute.ofEvents "last_page" .last views with property := some "page:" },
    { Attribute.ofEvents "last_place" .last views with property := some "page.1st" }]

theorem Blueprint.columns_not_bare : ∃ b, ofAttributes oddlyNamed "user_id" = .ok b ∧ ¬b.HasBareColumns ∧
    (∃ p ∈ b.plans, p.daily.column = some "page views" ∧ ¬Column.IsBare "page views") ∧
    (∃ p ∈ b.plans, p.filtered.column = some "" ∧ ¬Column.IsBare "") ∧
    ∃ e ∈ b.properties, e.name = "1st" ∧ ¬Column.IsBare "1st" := by
  have run : ((ofAttributes oddlyNamed "user_id").map fun b =>
      (b.properties, b.plans.map fun p => (p.filtered.column, p.daily.column))).toOption =
      some ([⟨"page.1st", "1st"⟩], [(none, some "page views"), (some "", some "last_"),
        (some "1st", some "last_1st")]) := by decide +kernel
  obtain ⟨b, compiled, columns⟩ := map_eq_ok_iff.mp (eq_ok_of_toOption run)
  obtain ⟨properties, plans⟩ := Prod.mk.inj columns
  have blank : ¬Column.IsBare "page views" := fun bare => absurd (bare.spelled ' ' (by decide)) (by decide)
  have empty : ¬Column.IsBare "" := fun bare => bare.nonempty rfl
  have digit : ¬Column.IsBare "1st" := fun bare => bare.undigited '1' (by decide) (by decide)
  have named : ⟨"page.1st", "1st"⟩ ∈ b.properties := properties ▸ List.mem_singleton_self _
  have planned (columns : Option String × Option String)
      (member : columns ∈ [(none, some "page views"), (some "", some "last_"), (some "1st", some "last_1st")]) :
      ∃ p ∈ b.plans, p.filtered.column = columns.1 ∧ p.daily.column = columns.2 := by
    rw [← plans] at member
    obtain ⟨p, listed, rfl⟩ := List.mem_map.mp member
    exact ⟨p, listed, rfl, rfl⟩
  refine ⟨b, compiled, fun bare => digit (bare.properties _ named), ?long, ?unnamed, _, named, rfl, digit⟩
  case long =>
    obtain ⟨p, listed, -, daily⟩ := planned (none, some "page views") (by simp)
    exact ⟨p, listed, daily, blank⟩
  case unnamed =>
    obtain ⟨p, listed, filtered, -⟩ := planned (some "", some "last_") (by simp)
    exact ⟨p, listed, filtered, empty⟩

end AttributeStore
