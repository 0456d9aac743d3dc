import AttributeStore.Proofs.Disk.Sparing

/-! Files that are already there. A file that is written again with the text that it has leaves a disk as it is. -/
namespace AttributeStore.Disk

variable {d d' d'' : Disk} {p q : Place} {path text : String}

/-- Disks on which the same stands at every place. -/
structure Same (d d' : Disk) : Prop where
  home : d'.home = d.home
  entries : ∀ q, d'.entry? q = d.entry? q

theorem Same.refl (d : Disk) : Same d d := ⟨rfl, fun _ => rfl⟩

theorem Same.trans (first : Same d d') (second : Same d' d'') : Same d d'' :=
  ⟨second.home.trans first.home, fun q => (second.entries q).trans (first.entries q)⟩

theorem Same.confined (same : Same d d') (own : Place → Prop) : Confined own d d' where
  home := same.home
  directories p there := (same.entries p).trans there
  files q _ text := by rw [same.entries q]

/-! Directories that are made again. -/

theorem directory_of_makeDirectory {isLast : Bool} (made : d.makeDirectory p isLast = .ok d') :
    d'.entry? p = some .directory := by
  unfold makeDirectory at made
  split at made
  case h_1 there =>
    cases made
    exact there
  case h_2 => cases made
  case h_3 free =>
    cases made
    have notRoot : p ≠ [] := by
      rintro rfl
      cases free
    rw [entry?_put d notRoot, if_pos rfl]

theorem makeDirectoriesFrom_again {names : List String}
    (made : makeDirectoriesFrom p (names.map .text) d = (d', .ok ())) (grown : Extends d' d'') :
    makeDirectoriesFrom p (names.map .text) d'' = (d'', .ok ()) := by
  induction names generalizing d p with
  | nil => rfl
  | cons name rest ih =>
    rw [List.map_cons, makeDirectoriesFrom] at made ⊢
    split at made
    case h_1 => cases made
    case h_2 next led =>
      split at made
      case h_1 => cases made
      case h_2 opened first =>
        -- What has been made on the way stays until the end, so the same steps lead through directories only.
        have later : Extends opened d' := by
          simpa [made] using (makeDirectoriesFrom_confined (d := opened) (p := next) (rest.map .text)).toExtends
        have ahead := later.trans grown
        have there := ahead.directories next (directory_of_makeDirectory first)
        rw [((makeDirectory_confined first).toExtends.trans ahead).descend led]
        dsimp only
        rw [makeDirectory_of_directory there]
        exact ih made

/-- Directories that have been made once are passed through from then on. -/
theorem makeDirectories_again (made : d.makeDirectories path = (d', .ok ())) (grown : Extends d' d'') :
    d''.makeDirectories path = (d'', .ok ()) := by
  have start : d''.origin path = d.origin path := by
    have home : d'.home = d.home := by
      have kept := (makeDirectories_confined (d := d) path).home
      rwa [made] at kept
    rw [origin, origin, grown.home, home]
  unfold makeDirectories at made ⊢
  split at made
  case isTrue => cases made
  case isFalse clear =>
    rw [if_neg clear, start]
    exact makeDirectoriesFrom_again made grown

/-! Files that are written again. -/

theorem exists_of_read (read : d.read path = .ok text) :
    ∃ p, d.locate path = .ok p ∧ d.entry? p = some (.file text) := by
  obtain ⟨⟨p, e⟩, found, rest⟩ := bind_eq_ok_iff.mp read
  obtain ⟨place, located, there⟩ := bind_eq_ok_iff.mp found
  refine ⟨place, located, ?_⟩
  split at there
  case h_2 => cases there
  case h_1 entry here =>
    cases there
    cases e with
    | directory => cases rest
    | file kept =>
      cases rest
      exact here

/-- A file stands with its text where its path leads, and its directory is made. -/
structure Settled (d : Disk) (path text : String) : Prop where
  opened : d.makeDirectories (Path.parent path) = (d, .ok ())
  there : ∃ p, d.locate path = .ok p ∧ d.entry? p = some (.file text)

theorem Settled.read (settled : Settled d path text) : d.read path = .ok text := by
  obtain ⟨p, located, there⟩ := settled.there
  exact read_of_file located there

theorem Settled.confined {own : Place → Prop} (settled : Settled d path text) (confined : Confined own d d')
    (apart : ∀ q, d'.locate path = .ok q → ¬own q) : Settled d' path text := by
  obtain ⟨p, located, there⟩ := settled.there
  have here := confined.toExtends.locate located
  exact ⟨makeDirectories_again settled.opened confined.toExtends, p, here,
    (confined.files p (apart p here) text).mpr there⟩

theorem Settled.same (settled : Settled d path text) (same : Same d d') : Settled d' path text :=
  settled.confined (same.confined fun _ => False) fun _ _ => id

theorem Settled.write (settled : Settled d path text) : ∃ d', d.write path text = .ok d' ∧ Same d d' := by
  obtain ⟨p, located, there⟩ := settled.there
  refine ⟨d.put p (.file text), ?_, rfl, fun q => ?_⟩
  · rw [Disk.write, located]
    dsimp only [bind, Except.bind]
    rw [there]
    rfl
  · rw [entry?_written (by simp [there])]
    split
    case isTrue here => rw [here, there]
    case isFalse => rfl

end AttributeStore.Disk
