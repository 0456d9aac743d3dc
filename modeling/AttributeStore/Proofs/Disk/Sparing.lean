import AttributeStore.Proofs.Disk.Tree

/-! What an operation leaves of any disk, whatever stands on it: directories are never lost, and of the files only the
one that is written changes. -/
namespace AttributeStore.Disk

variable {d d' d'' : Disk} {p q : Place}

/-- Disks on which no directory is missing, and all files are as they were but for those at certain places. -/
structure Confined (own : Place → Prop) (d d' : Disk) : Prop extends Extends d d' where
  files : ∀ q, ¬own q → ∀ text, d'.entry? q = some (.file text) ↔ d.entry? q = some (.file text)

theorem Confined.refl (own : Place → Prop) (d : Disk) : Confined own d d := ⟨⟨rfl, fun _ => id⟩, fun _ _ _ => .rfl⟩

theorem Confined.trans {own : Place → Prop} (first : Confined own d d') (second : Confined own d' d'') :
    Confined own d d'' where
  toExtends := first.toExtends.trans second.toExtends
  files q other text := (second.files q other text).trans (first.files q other text)

theorem Confined.mono {own wider : Place → Prop} (confined : Confined own d d') (more : ∀ q, own q → wider q) :
    Confined wider d d' :=
  ⟨confined.toExtends, fun q other => confined.files q fun its => other (more q its)⟩

/-- Disks on which no directory is missing, and the file at a place is as it was. -/
structure Spares (q : Place) (d d' : Disk) : Prop extends Extends d d' where
  file : ∀ text, d.entry? q = some (.file text) → d'.entry? q = some (.file text)

theorem Spares.refl (q : Place) (d : Disk) : Spares q d d := ⟨⟨rfl, fun _ => id⟩, fun _ => id⟩

theorem Spares.trans (first : Spares q d d') (second : Spares q d' d'') : Spares q d d'' where
  toExtends := first.toExtends.trans second.toExtends
  file text there := second.file text (first.file text there)

theorem Confined.spares {own : Place → Prop} (confined : Confined own d d') (other : ¬own q) : Spares q d d' :=
  ⟨confined.toExtends, fun text => (confined.files q other text).mpr⟩

theorem Extends.locate (grown : Extends d d') {path : String} (located : d.locate path = .ok p) :
    d'.locate path = .ok p := by
  obtain ⟨clear, nonempty, walked⟩ := locate_eq_ok.mp located
  refine locate_eq_ok.mpr ⟨clear, nonempty, ?_⟩
  rw [origin, grown.home]
  exact grown.walk walked

theorem read_of_file {path text : String} (located : d.locate path = .ok p) (there : d.entry? p = some (.file text)) :
    d.read path = .ok text := by
  have found : d.find path = .ok (p, .file text) := by
    rw [find, located]
    dsimp only [bind, Except.bind]
    rw [there]
    rfl
  rw [Disk.read, found]
  rfl

/-! Directories. -/

theorem makeDirectory_confined {isLast : Bool} (made : d.makeDirectory p isLast = .ok d') :
    Confined (fun _ => False) d d' := by
  unfold makeDirectory at made
  split at made
  case h_1 =>
    cases made
    exact .refl _ d
  case h_2 => cases made
  case h_3 free =>
    cases made
    have notRoot : p ≠ [] := by
      rintro rfl
      cases free
    have kept (place : Place) (other : d.entry? place ≠ none) :
        entry? (d.put p .directory) place = d.entry? place := by
      rw [entry?_put d notRoot, if_neg fun same => other (by rw [same, free])]
    refine ⟨⟨rfl, fun place there => (kept place (by simp [there])).trans there⟩, fun place _ text => ?_⟩
    by_cases same : place = p
    · rw [entry?_put d notRoot, if_pos same, same, free]
      simp
    · rw [entry?_put d notRoot, if_neg same]

theorem makeDirectoriesFrom_confined (names : List Name) :
    Confined (fun _ => False) d (makeDirectoriesFrom p names d).1 := by
  induction names generalizing d p with
  | nil => exact .refl _ d
  | cons name rest ih =>
    cases name with
    | text piece =>
      rw [makeDirectoriesFrom]
      split
      case h_1 => exact .refl _ d
      case h_2 next _ =>
        split
        case h_1 => exact .refl _ d
        case h_2 made => exact (makeDirectory_confined made).trans ih
    | raw bytes =>
      rw [makeDirectoriesFrom]
      · split
        case h_1 => exact .refl _ d
        case h_2 made => exact (makeDirectory_confined made).trans ih
      · simp

/-- Making directories touches no file. -/
theorem makeDirectories_confined (path : String) : Confined (fun _ => False) d (d.makeDirectories path).1 := by
  unfold makeDirectories
  split
  · exact .refl _ d
  · exact makeDirectoriesFrom_confined _

/-! Files. -/

/-- A file is written where its path leads, over nothing or over a file. -/
theorem exists_of_write {path text : String} (written : d.write path text = .ok d') :
    ∃ p, d.locate path = .ok p ∧ d.entry? p ≠ some .directory ∧ d' = d.put p (.file text) := by
  obtain ⟨p, located, put⟩ := bind_eq_ok_iff.mp written
  refine ⟨p, located, ?_⟩
  split at put
  case h_1 => cases put
  case h_2 free =>
    cases put
    exact ⟨free, rfl⟩

theorem entry?_written {text : String} (free : d.entry? p ≠ some .directory) (q : Place) :
    entry? (d.put p (.file text)) q = if q = p then some (.file text) else d.entry? q :=
  entry?_put d (fun root => free (if_pos root)) _ q

theorem put_extends (text : String) (free : d.entry? p ≠ some .directory) : Extends d (d.put p (.file text)) where
  home := rfl
  directories q there := by
    have other : q ≠ p := fun same => free (same ▸ there)
    rw [entry?_written free, if_neg other, there]

theorem put_confined (text : String) (free : d.entry? p ≠ some .directory) :
    Confined (· = p) d (d.put p (.file text)) where
  toExtends := put_extends text free
  files q other _ := by rw [entry?_written free, if_neg other]

/-! Where the paths of names lead that are joined to one path. -/

theorem short_of_locate {path : String} (located : d.locate path = .ok p) :
    ∀ piece ∈ pieces path, piece.utf8ByteSize ≤ maxName := by
  obtain ⟨-, -, walked⟩ := locate_eq_ok.mp located
  generalize d.origin path = start at walked
  generalize pieces path = rest at walked
  induction rest generalizing start with
  | nil => simp
  | cons piece rest ih =>
    obtain ⟨next, led, walked⟩ := walk_cons.mp walked
    refine List.forall_mem_cons.mpr ⟨?_, ih next walked⟩
    have here := directory_of_descend led
    unfold descend at led
    rw [here] at led
    dsimp only at led
    split at led
    case isTrue same =>
      rw [Bool.or_eq_true, decide_eq_true_iff, decide_eq_true_iff] at same
      rcases same with rfl | rfl <;> decide
    case isFalse =>
      split at led
      case isTrue same =>
        rw [same]
        decide
      case isFalse =>
        split at led
        case isTrue => cases led
        case isFalse short => exact Nat.le_of_not_lt short

theorem below_of_walk {names : List String} {base : Place} (plain : ∀ name ∈ names, IsPlain name)
    (walked : names.foldlM d.descend base = .ok p) : p = below base names := by
  induction names generalizing base with
  | nil =>
    cases walked
    rw [below_nil]
  | cons name names ih =>
    obtain ⟨next, led, walked⟩ := walk_cons.mp walked
    rw [below_of_descend (plain name (by simp)) led] at walked
    rw [ih (fun n member => plain n (List.mem_cons_of_mem _ member)) walked]
    exact below_cons base name names

/-- The directory that is meant where none is named is this one. -/
def orHere (path : String) : String := if path = "" then "." else path

/-- Where the front of a path leads to a directory, there the path leads itself. -/
theorem locate_orHere {path : String} {base : Place} (clear : '\x00' ∉ path.toList)
    (ahead : (Path.front path).foldlM d.descend (d.origin path) = .ok base) (there : d.entry? base = some .directory) :
    d.locate (orHere path) = .ok base := by
  have stays (piece : String) (mark : piece = "" ∨ piece = ".") : d.descend base piece = .ok base := by
    rw [descend, there]
    exact if_pos (by simpa using mark)
  by_cases none : path = ""
  · subst none
    cases ahead
    rw [orHere, if_pos rfl]
    refine locate_eq_ok.mpr ⟨by decide, by decide, ?_⟩
    have pieces : pieces "." = ["."] := Path.pieces_of_uncut (by decide)
    have origin : d.origin "." = d.origin "" := by simp [origin]
    rw [pieces, origin]
    exact walk_cons.mpr ⟨_, stays "." (.inr rfl), rfl⟩
  · rw [orHere, if_neg none]
    refine locate_eq_ok.mpr ⟨clear, none, ?_⟩
    rcases Path.pieces_eq_front none with same | same
    · rwa [same]
    · rw [same, List.foldlM_append, ahead]
      exact walk_cons.mpr ⟨base, stays "" (.inl rfl), rfl⟩

/-- A path of plain names that is joined to another leads down from the place that the other leads to itself. -/
theorem exists_below_of_locate {path inner : String} (ends : Path.IsInner inner)
    (plain : ∀ piece ∈ pieces inner, IsPlain piece) (located : d.locate (Path.join path inner) = .ok p) :
    ∃ base, d.locate (orHere path) = .ok base ∧ p = below base (pieces inner) := by
  obtain ⟨clear, -, walked⟩ := locate_eq_ok.mp located
  rw [Path.pieces_join_inner path ends, origin, Path.startsWith_join path ends, ← origin, List.foldlM_append,
    bind_eq_ok_iff] at walked
  obtain ⟨base, ahead, rest⟩ := walked
  have there : d.entry? base = some .directory := by
    obtain ⟨piece, more, split⟩ := List.exists_cons_of_ne_nil (Path.pieces_ne_nil inner)
    rw [split] at rest
    obtain ⟨next, led, -⟩ := walk_cons.mp rest
    exact directory_of_descend led
  have clear' : '\x00' ∉ path.toList := mt (Path.mem_join path ends) clear
  exact ⟨base, locate_orHere clear' ahead there, below_of_walk plain rest⟩

/-- Different names, joined to one path, never lead to one place. -/
theorem names_eq_of_locate {path : String} {names others : List String} (named : ∀ name ∈ names, IsName name)
    (some : names ≠ []) (namedOthers : ∀ name ∈ others, IsName name) (someOthers : others ≠ [])
    (first : d.locate (Path.join path (Path.ofNames names)) = .ok p)
    (second : d.locate (Path.join path (Path.ofNames others)) = .ok p) : names = others := by
  have leads {names : List String} (named : ∀ name ∈ names, IsName name) (some : names ≠ [])
      (located : d.locate (Path.join path (Path.ofNames names)) = .ok p) :
      ∃ base, d.locate (orHere path) = .ok base ∧ p = below base names := by
    have pieces := Path.pieces_ofNames named some
    have below := exists_below_of_locate (Path.ofNames_isInner named some)
      (by rw [pieces]; exact fun name member => (named name member).isPlain) located
    rwa [pieces] at below
  obtain ⟨base, ahead, place⟩ := leads named some first
  obtain ⟨base', ahead', place'⟩ := leads namedOthers someOthers second
  cases ahead.symm.trans ahead'
  exact below_inj.mp (place.symm.trans place')

end AttributeStore.Disk
