import AttributeStore.Proofs.Disk.Paths
import AttributeStore.Proofs.Outcome
import Mathlib.Logic.Function.Basic

/-! What stands below a directory of a disk. Making directories and writing a file change what they name and nothing
else. -/
namespace AttributeStore.Disk

/-- The place that names lead to, from a place down. -/
def below (base : Place) (names : List String) : Place := base ++ names.map .text

theorem below_nil (base : Place) : below base [] = base := List.append_nil base

theorem below_cons (base : Place) (name : String) (names : List String) :
    below (base ++ [.text name]) names = below base (name :: names) := by
  simp [below]

theorem below_inj {base : Place} {names others : List String} :
    below base names = below base others ↔ names = others := by
  rw [below, below, List.append_cancel_left_eq]
  exact (List.map_injective_iff.mpr fun _ _ => Name.text.inj).eq_iff

theorem below_ne_nil (base : Place) {names : List String} (some : names ≠ []) : below base names ≠ [] := by
  simp [below, some]

theorem entry?_put (d : Disk) {p : Place} (some : p ≠ []) (e : Entry) (q : Place) :
    entry? (d.put p e) q = if q = p then .some e else d.entry? q := by
  have others (entries : List (Place × Entry)) (other : q ≠ p) :
      (entries.filter (·.1 ≠ p)).lookup q = entries.lookup q := by
    induction entries with
    | nil => rfl
    | cons entry rest ih =>
      by_cases same : entry.1 = p
      · rw [List.filter_cons_of_neg (by simp [same]), ih, List.lookup_cons, beq_false_of_ne (same ▸ other)]
      · rw [List.filter_cons_of_pos (by simp [same]), List.lookup_cons, List.lookup_cons, ih]
  unfold entry? put
  split
  case isTrue root => rw [if_neg (root ▸ Ne.symm some)]
  case isFalse =>
    rw [List.lookup_cons]
    split
    case h_1 same => rw [if_pos (beq_iff_eq.mp same)]
    case h_2 different =>
      have other : q ≠ p := ne_of_beq_false (by simpa using different)
      rw [if_neg other, others _ other]

/-! Paths walked on a disk. -/

variable {d d' : Disk} {base : Place} {names : List String}

theorem descend_name {name : String} (here : d.entry? base = some .directory) (named : IsName name) :
    d.descend base name = .ok (below base [name]) := by
  have plain : ¬(name = "" || name = ".") = true := by simp [named.nonempty, named.plain.1]
  rw [descend, here]
  dsimp only
  rw [if_neg plain, if_neg named.plain.2, if_neg (Nat.not_lt.mpr named.short)]
  rfl

theorem directory_of_descend {next : Place} {piece : String} (led : d.descend base piece = .ok next) :
    d.entry? base = some .directory := by
  unfold descend at led
  split at led
  case h_3 here => exact here
  all_goals cases led

/-- A plain name leads one level down, if anywhere. -/
theorem below_of_descend {name : String} {next : Place} (plain : IsPlain name)
    (led : d.descend base name = .ok next) : next = below base [name] := by
  have stays : ¬(name = "" || name = ".") = true := by simp [plain.1, plain.2.1]
  rw [descend, directory_of_descend led] at led
  dsimp only at led
  rw [if_neg stays, if_neg plain.2.2] at led
  split at led
  case isTrue => cases led
  case isFalse =>
    cases led
    rfl

/-- Names lead where all that stand before the last one lead to directories. -/
theorem walk_names (named : ∀ name ∈ names, IsName name)
    (there : ∀ front, front <+: names → front ≠ names → d.entry? (below base front) = some .directory) :
    names.foldlM d.descend base = .ok (below base names) := by
  induction names generalizing base with
  | nil => rw [below_nil]; rfl
  | cons name names ih =>
    have here : d.entry? base = some .directory := by
      simpa [below_nil] using there [] List.nil_prefix (by simp)
    rw [List.foldlM_cons, descend_name here (named name (by simp))]
    show names.foldlM d.descend (base ++ [.text name]) = _
    rw [ih (fun name member => named name (List.mem_cons_of_mem _ member)) fun front ahead proper => ?_, below_cons]
    rw [below_cons]
    exact there (name :: front) (List.cons_prefix_cons.mpr ⟨rfl, ahead⟩) (by simpa using proper)

theorem walk_cons {piece : String} {rest : List String} {p q : Place} :
    (piece :: rest).foldlM d.descend p = .ok q ↔
      ∃ next, d.descend p piece = .ok next ∧ rest.foldlM d.descend next = .ok q := by
  rw [List.foldlM_cons, bind_eq_ok_iff]

/-- Where a walk ends in a directory, it has been through directories only. -/
theorem directory_of_walk {pieces : List String} {p q : Place} (walked : pieces.foldlM d.descend p = .ok q)
    (ends : d.entry? q = some .directory) : d.entry? p = some .directory := by
  cases pieces with
  | nil =>
    cases walked
    exact ends
  | cons piece rest =>
    obtain ⟨next, led, -⟩ := walk_cons.mp walked
    exact directory_of_descend led

/-- Disks on which no directory of `d` is missing. -/
structure Extends (d d' : Disk) : Prop where
  home : d'.home = d.home
  directories : ∀ p, d.entry? p = some .directory → d'.entry? p = some .directory

theorem Extends.trans {d'' : Disk} (first : Extends d d') (second : Extends d' d'') : Extends d d'' :=
  ⟨second.home.trans first.home, fun p there => second.directories p (first.directories p there)⟩

theorem Extends.descend (extends' : Extends d d') {p next : Place} {piece : String}
    (led : d.descend p piece = .ok next) : d'.descend p piece = .ok next := by
  have here := directory_of_descend led
  unfold Disk.descend at led ⊢
  rw [here] at led
  rw [extends'.directories p here]
  exact led

theorem Extends.walk (extends' : Extends d d') {pieces : List String} {p q : Place}
    (walked : pieces.foldlM d.descend p = .ok q) : pieces.foldlM d'.descend p = .ok q := by
  induction pieces generalizing p with
  | nil => exact walked
  | cons piece rest ih =>
    obtain ⟨next, led, walked⟩ := walk_cons.mp walked
    exact walk_cons.mpr ⟨next, extends'.descend led, ih walked⟩

/-- A path that leads to a directory. -/
structure Directory (d : Disk) (path : String) (base : Place) : Prop where
  located : d.locate path = .ok base
  there : d.entry? base = some .directory

theorem locate_eq_ok {path : String} {p : Place} : d.locate path = .ok p ↔
    '\x00' ∉ path.toList ∧ path ≠ "" ∧ (pieces path).foldlM d.descend (d.origin path) = .ok p := by
  rw [locate, String.contains_char_eq]
  by_cases nul : '\x00' ∈ path.toList
  · simp [nul]
  · by_cases empty : path = "" <;> simp [nul, empty]

theorem Directory.extend {path : String} (directory : Directory d path base) (extends' : Extends d d') :
    Directory d' path base := by
  obtain ⟨clear, nonempty, walked⟩ := locate_eq_ok.mp directory.located
  refine ⟨locate_eq_ok.mpr ⟨clear, nonempty, ?_⟩, extends'.directories base directory.there⟩
  rw [origin, extends'.home]
  exact extends'.walk walked

/-! Paths of names below a directory. -/

theorem descend_empty {p q : Place} (led : d.descend p "" = .ok q) : q = p := by
  have here := directory_of_descend led
  unfold descend at led
  rw [here] at led
  cases led
  rfl

/-- A path of names goes through the directory that it is joined to. -/
theorem Directory.walk_join {path : String} (directory : Directory d path base) (named : ∀ name ∈ names, IsName name)
    (some : names ≠ []) : ∃ front, pieces (Path.join path (Path.ofNames names)) = front ++ names ∧
      front.foldlM d.descend (d.origin (Path.join path (Path.ofNames names))) = .ok base := by
  obtain ⟨-, nonempty, walked⟩ := locate_eq_ok.mp directory.located
  refine ⟨Path.front path, Path.pieces_join path named some, ?_⟩
  rw [origin, Path.startsWith_join path (Path.ofNames_isInner named some), ← origin]
  rcases Path.pieces_eq_front nonempty with same | same
  · rwa [same] at walked
  · rw [same, List.foldlM_append, bind_eq_ok_iff] at walked
    obtain ⟨p, led, last⟩ := walked
    obtain ⟨q, stayed, ends⟩ := walk_cons.mp last
    cases ends
    rwa [descend_empty stayed]

theorem Directory.locate_join {path : String} (directory : Directory d path base)
    (named : ∀ name ∈ names, IsName name) (some : names ≠ [])
    (there : ∀ front, front <+: names → front ≠ names → d.entry? (below base front) = .some .directory) :
    d.locate (Path.join path (Path.ofNames names)) = .ok (below base names) := by
  obtain ⟨clear, -, -⟩ := locate_eq_ok.mp directory.located
  obtain ⟨front, cut, walked⟩ := directory.walk_join named some
  refine locate_eq_ok.mpr ⟨Path.noNul_join clear named some, Path.join_ne_empty _ (Path.ofNames_isInner named some), ?_⟩
  rw [cut, List.foldlM_append, walked]
  exact walk_names named there

/-! Making directories. -/

theorem makeDirectory_spec {p : Place} (some : p ≠ []) (free : ∀ text, d.entry? p ≠ .some (.file text))
    (isLast : Bool) :
    ∃ d', d.makeDirectory p isLast = .ok d' ∧ d'.home = d.home ∧
      ∀ q, d'.entry? q = if q = p then .some .directory else d.entry? q := by
  unfold makeDirectory
  split
  case h_1 here =>
    refine ⟨d, rfl, rfl, fun q => ?_⟩
    split
    case isTrue same => rw [same, here]
    case isFalse => rfl
  case h_2 text here => exact absurd here (free text)
  case h_3 => exact ⟨d.put p .directory, rfl, rfl, fun q => entry?_put d some .directory q⟩

theorem makeDirectory_of_directory {p : Place} (there : d.entry? p = some .directory) (isLast : Bool) :
    d.makeDirectory p isLast = .ok d := by
  rw [makeDirectory, there]

/-- Directories that are there are passed through. -/
theorem makeDirectoriesFrom_walk {front : List String} {p : Place} (walked : front.foldlM d.descend p = .ok base)
    (there : d.entry? base = some .directory) (more : List Name) :
    makeDirectoriesFrom p (front.map .text ++ more) d = makeDirectoriesFrom base more d := by
  induction front generalizing p with
  | nil =>
    cases walked
    rfl
  | cons piece rest ih =>
    obtain ⟨next, led, walked⟩ := walk_cons.mp walked
    rw [List.map_cons, List.cons_append, makeDirectoriesFrom, led]
    dsimp only
    rw [makeDirectory_of_directory (directory_of_walk walked there)]
    exact ih walked

/-- Directories have been made for some names, one below the other, and nothing else has changed. -/
structure Opened (d d' : Disk) (base : Place) (names : List String) : Prop where
  home : d'.home = d.home
  there : ∀ front, front <+: names → d'.entry? (below base front) = some .directory
  elsewhere : ∀ q, (∀ front, front <+: names → q ≠ below base front) → d'.entry? q = d.entry? q

theorem makeDirectoriesFrom_names (named : ∀ name ∈ names, IsName name) (here : d.entry? base = some .directory)
    (free : ∀ front, front <+: names → ∀ text, d.entry? (below base front) ≠ some (.file text)) :
    ∃ d', makeDirectoriesFrom base (names.map .text) d = (d', .ok ()) ∧ Opened d d' base names := by
  induction names generalizing d base with
  | nil =>
    refine ⟨d, rfl, rfl, fun front ahead => ?_, fun _ _ => rfl⟩
    rw [List.prefix_nil.mp ahead, below_nil, here]
  | cons name names ih =>
    have freeHere : ∀ text, d.entry? (below base [name]) ≠ some (.file text) :=
      free [name] (List.cons_prefix_cons.mpr ⟨rfl, List.nil_prefix⟩)
    obtain ⟨opened, made, home, entries⟩ := makeDirectory_spec (d := d) (below_ne_nil base (List.cons_ne_nil name []))
      freeHere (names.map Name.text).isEmpty
    have hereNext : opened.entry? (below base [name]) = some .directory := by rw [entries, if_pos rfl]
    have freeNext : ∀ front, front <+: names → ∀ text,
        opened.entry? (below (below base [name]) front) ≠ some (.file text) := by
      intro front ahead text
      rw [entries]
      split
      · exact nofun
      · rw [show below (below base [name]) front = below base (name :: front) from below_cons base name front]
        exact free (name :: front) (List.cons_prefix_cons.mpr ⟨rfl, ahead⟩) text
    obtain ⟨d', rest, done⟩ := ih (fun name member => named name (List.mem_cons_of_mem _ member)) hereNext freeNext
    refine ⟨d', ?_, done.home.trans home, fun front ahead => ?_, fun q other => ?_⟩
    · rw [List.map_cons, makeDirectoriesFrom, descend_name here (named name (by simp))]
      dsimp only
      rw [made]
      exact rest
    · cases front with
      | nil =>
        have start : ∀ front, front <+: names → below base [] ≠ below (below base [name]) front := by
          intro front _ same
          rw [show below (below base [name]) front = below base (name :: front) from below_cons base name front,
            below_inj] at same
          cases same
        rw [done.elsewhere _ start, entries, if_neg (by simp [below_inj]), below_nil, here]
      | cons other front =>
        obtain ⟨rfl, later⟩ := List.cons_prefix_cons.mp ahead
        rw [← below_cons]
        exact done.there front later
    · have different : ∀ front, front <+: names → q ≠ below (below base [name]) front := fun front ahead same =>
        other (name :: front) (List.cons_prefix_cons.mpr ⟨rfl, ahead⟩) (same.trans (below_cons base name front))
      rw [done.elsewhere q different, entries,
        if_neg (other [name] (List.cons_prefix_cons.mpr ⟨rfl, List.nil_prefix⟩))]

/-- A file has been written, its directories have been made, and nothing else has changed. -/
structure Stored (d d' : Disk) (base : Place) (dirs : List String) (name text : String) : Prop where
  home : d'.home = d.home
  file : d'.entry? (below base (dirs ++ [name])) = some (.file text)
  there : ∀ front, front <+: dirs → d'.entry? (below base front) = some .directory
  elsewhere : ∀ q, q ≠ below base (dirs ++ [name]) → (∀ front, front <+: dirs → q ≠ below base front) →
    d'.entry? q = d.entry? q

theorem Directory.makeDirectories_join {path : String} (directory : Directory d path base)
    (named : ∀ name ∈ names, IsName name) (some : names ≠ [])
    (free : ∀ front, front <+: names → ∀ text, d.entry? (below base front) ≠ .some (.file text)) :
    ∃ d', d.makeDirectories (Path.join path (Path.ofNames names)) = (d', .ok ()) ∧ Opened d d' base names := by
  obtain ⟨clear, -, -⟩ := locate_eq_ok.mp directory.located
  obtain ⟨front, cut, walked⟩ := directory.walk_join named some
  obtain ⟨d', made, opened⟩ := makeDirectoriesFrom_names named directory.there free
  refine ⟨d', ?_, opened⟩
  have noNul : ¬(Path.join path (Path.ofNames names)).contains '\x00' = true := by
    rw [String.contains_char_eq, decide_eq_true_iff]
    exact Path.noNul_join clear named some
  rw [makeDirectories, if_neg noNul, cut, List.map_append, makeDirectoriesFrom_walk walked directory.there, made]

theorem Opened.extends (opened : Opened d d' base names) : Extends d d' where
  home := opened.home
  directories p there := by
    by_cases made : ∃ front, front <+: names ∧ p = below base front
    · obtain ⟨front, ahead, same⟩ := made
      rw [same, opened.there front ahead]
    · rw [opened.elsewhere p fun front ahead same => made ⟨front, ahead, same⟩, there]

theorem ne_concat_of_ahead {dirs front : List String} {name : String} (ahead : front <+: dirs) :
    front ≠ dirs ++ [name] := by
  rintro rfl
  have length := ahead.length_le
  rw [List.length_append, List.length_singleton] at length
  omega

theorem Directory.write_join {path : String} (directory : Directory d path base) {dirs : List String} {name : String}
    (named : ∀ n ∈ dirs ++ [name], IsName n)
    (there : ∀ front, front <+: dirs → d.entry? (below base front) = some .directory)
    (free : d.entry? (below base (dirs ++ [name])) ≠ some .directory) (text : String) :
    d.write (Path.join path (Path.ofNames (dirs ++ [name]))) text =
      .ok (d.put (below base (dirs ++ [name])) (.file text)) := by
  have located := directory.locate_join named (by simp) fun front ahead proper =>
    there front ((List.prefix_concat_iff.mp ahead).resolve_left proper)
  rw [write, located]
  dsimp only [bind, Except.bind]
  split
  case h_1 here => exact absurd here free
  case h_2 => rfl

/-- Making the directories of a file and writing it, where no file and no directory stands in the way. -/
theorem Directory.store {path : String} (directory : Directory d path base) {dirs : List String} {name : String}
    (named : ∀ n ∈ dirs ++ [name], IsName n) (some : dirs ≠ [])
    (free : ∀ front, front <+: dirs → ∀ text, d.entry? (below base front) ≠ .some (.file text))
    (open' : d.entry? (below base (dirs ++ [name])) ≠ .some .directory) (text : String) :
    ∃ opened d', d.makeDirectories (Path.parent (Path.join path (Path.ofNames (dirs ++ [name])))) = (opened, .ok ()) ∧
      opened.write (Path.join path (Path.ofNames (dirs ++ [name]))) text = .ok d' ∧
      Stored d d' base dirs name text := by
  have namedDirs : ∀ n ∈ dirs, IsName n := fun n member => named n (List.mem_append_left _ member)
  obtain ⟨opened, made, done⟩ := directory.makeDirectories_join namedDirs some free
  have apart : ∀ front, front <+: dirs → below base (dirs ++ [name]) ≠ below base front := fun front ahead same =>
    ne_concat_of_ahead ahead (below_inj.mp same).symm
  have target : opened.entry? (below base (dirs ++ [name])) ≠ .some .directory := by
    rw [done.elsewhere _ apart]
    exact open'
  have written := (directory.extend done.extends).write_join named done.there target text
  have entries := entry?_put opened (below_ne_nil base (List.concat_ne_nil name dirs)) (.file text)
  refine ⟨opened, _, ?_, written, done.home, ?_, fun front ahead => ?_, fun q other others => ?_⟩
  · rw [Path.ofNames_append some (List.cons_ne_nil name []), show Path.ofNames [name] = name from rfl,
      Path.parent_join path (Path.ofNames_isInner namedDirs some) (named name (by simp)), made]
  · rw [entries, if_pos rfl]
  · rw [entries, if_neg (apart front ahead).symm, done.there front ahead]
  · rw [entries, if_neg other, done.elsewhere q others]

theorem Stored.extends {dirs : List String} {name text : String} (stored : Stored d d' base dirs name text)
    (free : d.entry? (below base (dirs ++ [name])) ≠ some .directory) : Extends d d' where
  home := stored.home
  directories p there := by
    by_cases made : ∃ front, front <+: dirs ∧ p = below base front
    · obtain ⟨front, ahead, same⟩ := made
      rw [same, stored.there front ahead]
    · have other : p ≠ below base (dirs ++ [name]) := fun same => free (same ▸ there)
      rw [stored.elsewhere p other fun front ahead same => made ⟨front, ahead, same⟩, there]

/-! Trees of files. -/

/-- The directory of a path holds these files, each by the names that lead to it, with the directories that they need
and no others. -/
structure Tree (d : Disk) (path : String) (base : Place) (files : List String → Option String) : Prop where
  directory : Directory d path base
  file_iff : ∀ names text, d.entry? (below base names) = some (.file text) ↔ files names = some text
  directory_iff : ∀ names, d.entry? (below base names) = some .directory ↔
    names = [] ∨ ∃ rest, rest ≠ [] ∧ (files (names ++ rest)).isSome

/-- A directory with nothing in it. -/
structure Vacant (d : Disk) (path : String) (base : Place) : Prop where
  directory : Directory d path base
  nothing : ∀ name rest, d.entry? (base ++ name :: rest) = none

theorem Vacant.tree {path : String} (vacant : Vacant d path base) : Tree d path base fun _ => none where
  directory := vacant.directory
  file_iff names text := by
    cases names with
    | nil => simp [below_nil, vacant.directory.there]
    | cons name names => simp [below, vacant.nothing]
  directory_iff names := by
    cases names with
    | nil => simp [below_nil, vacant.directory.there]
    | cons name names => simp [below, vacant.nothing]

variable {path : String} {files : List String → Option String}

theorem Tree.read (tree : Tree d path base files) (named : ∀ name ∈ names, IsName name) (some : names ≠ [])
    {text : String} (file : files names = .some text) : d.read (Path.join path (Path.ofNames names)) = .ok text := by
  have located := tree.directory.locate_join named some fun front ahead proper => by
    obtain ⟨rest, rfl⟩ := ahead
    refine (tree.directory_iff front).mpr (.inr ⟨rest, fun none => proper (by simp [none]), by simp [file]⟩)
  have here := (tree.file_iff names text).mpr file
  have found : d.find (Path.join path (Path.ofNames names)) = .ok (below base names, .file text) := by
    rw [find, located]
    dsimp only [bind, Except.bind]
    rw [here]
    rfl
  rw [Disk.read, found]
  rfl

/-- Files are written over nothing or over files, and through no file. -/
structure Tree.Admits (files : List String → Option String) (dirs : List String) (name : String) : Prop where
  through : ∀ front, front <+: dirs → files front = none
  behind : ∀ rest, rest ≠ [] → files (dirs ++ [name] ++ rest) = none

/-- What is found below the directory after a file has been written. -/
theorem Stored.cases {dirs : List String} {name text : String} (stored : Stored d d' base dirs name text)
    (names : List String) :
    (names = dirs ++ [name] ∧ d'.entry? (below base names) = some (.file text)) ∨
    (names <+: dirs ∧ d'.entry? (below base names) = some .directory) ∨
    (names ≠ dirs ++ [name] ∧ ¬names <+: dirs ∧ d'.entry? (below base names) = d.entry? (below base names)) := by
  by_cases target : names = dirs ++ [name]
  · exact .inl ⟨target, target ▸ stored.file⟩
  · by_cases ahead : names <+: dirs
    · exact .inr (.inl ⟨ahead, stored.there names ahead⟩)
    · exact .inr (.inr ⟨target, ahead, stored.elsewhere _ (fun same => target (below_inj.mp same))
        fun front before same => ahead (below_inj.mp same ▸ before)⟩)

theorem Tree.file_iff_of_stored {dirs : List String} {name text : String} (tree : Tree d path base files)
    (stored : Stored d d' base dirs name text) (admits : Admits files dirs name) (names : List String) (t : String) :
    d'.entry? (below base names) = some (.file t) ↔
      Function.update files (dirs ++ [name]) (some text) names = some t := by
  rcases stored.cases names with ⟨target, here⟩ | ⟨ahead, here⟩ | ⟨other, -, here⟩
  · rw [here, target, Function.update_self]
    simp
  · rw [here, Function.update_of_ne (ne_concat_of_ahead ahead), admits.through names ahead]
    simp
  · rw [here, Function.update_of_ne other]
    exact tree.file_iff names t

theorem Tree.directory_iff_of_stored {dirs : List String} {name text : String} (tree : Tree d path base files)
    (stored : Stored d d' base dirs name text) (admits : Admits files dirs name) (names : List String) :
    d'.entry? (below base names) = some .directory ↔ names = [] ∨ ∃ rest, rest ≠ [] ∧
      (Function.update files (dirs ++ [name]) (some text) (names ++ rest)).isSome := by
  rcases stored.cases names with ⟨target, here⟩ | ⟨ahead, here⟩ | ⟨other, apart, here⟩
  · rw [here, target]
    refine ⟨nofun, ?_⟩
    rintro (empty | ⟨rest, more, there⟩)
    · simp at empty
    · rw [Function.update_of_ne (by simp [more]), admits.behind rest more] at there
      cases there
  · obtain ⟨rest, rfl⟩ := ahead
    refine ⟨fun _ => .inr ⟨rest ++ [name], by simp, ?_⟩, fun _ => here⟩
    rw [← List.append_assoc, Function.update_self]
    rfl
  · have elsewhere (rest : List String) (more : rest ≠ []) :
        Function.update files (dirs ++ [name]) (some text) (names ++ rest) = files (names ++ rest) := by
      refine Function.update_of_ne (fun same => ?_) _ _
      rcases List.prefix_concat_iff.mp (same ▸ List.prefix_append names rest) with whole | ahead
      · exact other whole
      · exact apart ahead
    rw [here, tree.directory_iff]
    refine or_congr_right (exists_congr fun rest => and_congr_right fun more => ?_)
    rw [elsewhere rest more]

theorem Tree.store {dirs : List String} {name : String} (tree : Tree d path base files)
    (named : ∀ n ∈ dirs ++ [name], IsName n) (some : dirs ≠ []) (admits : Admits files dirs name) (text : String) :
    ∃ opened d', d.makeDirectories (Path.parent (Path.join path (Path.ofNames (dirs ++ [name])))) = (opened, .ok ()) ∧
      opened.write (Path.join path (Path.ofNames (dirs ++ [name]))) text = .ok d' ∧
      Tree d' path base (Function.update files (dirs ++ [name]) (.some text)) := by
  have free : ∀ front, front <+: dirs → ∀ text, d.entry? (below base front) ≠ .some (.file text) := by
    intro front ahead text here
    have file := (tree.file_iff front text).mp here
    rw [admits.through front ahead] at file
    cases file
  have open' : d.entry? (below base (dirs ++ [name])) ≠ .some .directory := by
    intro here
    rcases (tree.directory_iff _).mp here with none | ⟨rest, more, there⟩
    · simp at none
    · rw [admits.behind rest more] at there
      cases there
  obtain ⟨opened, d', made, written, stored⟩ := tree.directory.store named some free open' text
  exact ⟨opened, d', made, written, tree.directory.extend (stored.extends open'),
    tree.file_iff_of_stored stored admits, tree.directory_iff_of_stored stored admits⟩

end AttributeStore.Disk
