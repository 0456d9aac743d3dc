import AttributeStore.Proofs.Column.Name
import AttributeStore.Proofs.Text.Splitting

/-! The case of names. A warehouse takes two bare names for one where only the case of their letters differs, while
collisions are resolved by the spelling of names. -/
namespace AttributeStore

namespace Text

def isCapital (c : Char) : Bool := 'A' ≤ c && c ≤ 'Z'

theorem isCapital_iff {c : Char} : isCapital c ↔ 65 ≤ c.toNat ∧ c.toNat ≤ 90 := by
  simp [isCapital, Char.le_def, UInt32.le_iff_toNat_le]

theorem isCapital_eq_false_iff {c : Char} : isCapital c = false ↔ c.toNat < 65 ∨ 90 < c.toNat := by
  rw [← Bool.not_eq_true, isCapital_iff]
  omega

theorem isCapital_digit {c : Char} (digit : c.isDigit) : isCapital c = false := by
  simp only [Char.isDigit, Bool.and_eq_true, decide_eq_true_eq, UInt32.le_iff_toNat_le] at digit
  exact isCapital_eq_false_iff.mpr (.inl (Nat.lt_of_le_of_lt digit.2 (by decide)))

theorem toNat_ofNat (n : Nat) : (Char.ofNat n).toNat = n ∨ (Char.ofNat n).toNat = 0 := by
  by_cases valid : n.isValidChar
  · rw [Char.ofNat, dif_pos valid]
    exact .inl rfl
  · rw [Char.ofNat, dif_neg valid]
    exact .inr rfl

theorem lowerAscii_append (s t : List Char) : lowerAscii (s ++ t) = lowerAscii s ++ lowerAscii t := List.map_append

theorem lowerAscii_eq_self {s : List Char} (plain : ∀ c ∈ s, isCapital c = false) : lowerAscii s = s := by
  refine (List.map_congr_left fun c member => ?_).trans (List.map_id s)
  have small := plain c member
  rw [isCapital] at small
  simp [small]

theorem lowerAscii_isCapital (s : List Char) : ∀ c ∈ lowerAscii s, isCapital c = false := by
  intro c member
  obtain ⟨d, -, rfl⟩ := List.mem_map.mp member
  rw [← isCapital]
  split
  case isFalse plain => simpa using plain
  case isTrue capital =>
    rw [isCapital_iff] at capital
    rw [isCapital_eq_false_iff]
    rcases toNat_ofNat (d.toNat + 32) with same | none <;> omega

/-- Where a lowered text ends in a digit, it did so before. -/
theorem getLast?_of_lowerAscii {s : List Char} {c : Char} (digit : c.isDigit)
    (last : (lowerAscii s).getLast? = some c) : s.getLast? = some c := by
  rw [lowerAscii, List.getLast?_map, Option.map_eq_some_iff] at last
  obtain ⟨d, last, lowered⟩ := last
  rw [← isCapital] at lowered
  split at lowered
  case isFalse => rwa [← lowered]
  case isTrue capital =>
    rw [isCapital_iff] at capital
    simp only [Char.isDigit, Bool.and_eq_true, decide_eq_true_eq, UInt32.le_iff_toNat_le, Char.toNat_val] at digit
    obtain ⟨low, high⟩ : 48 ≤ c.toNat ∧ c.toNat ≤ 57 := digit
    rw [← lowered] at low high
    rcases toNat_ofNat (d.toNat + 32) with same | none <;> omega

/-- A letter beyond ASCII is never lowered to a capital of ASCII, though the Kelvin sign becomes a `k`. -/
theorem toLowerRuns_beyond : ∀ run ∈ toLowerRuns, run.last < 128 ∨ 90 < run.first + run.shift := by
  decide +kernel

theorem shifted_isCapital {c : Char} (beyond : ¬c.toNat < 128) : isCapital (shifted toLowerRuns c) = false := by
  rw [isCapital_eq_false_iff]
  unfold shifted
  cases found : toLowerRuns.find? (·.covers c.toNat) with
  | none =>
    dsimp only
    omega
  | some run =>
    have covers := List.find?_some found
    simp only [CaseRun.covers, Bool.and_eq_true, decide_eq_true_eq] at covers
    have high := toLowerRuns_beyond run (List.mem_of_find?_eq_some found)
    dsimp only
    rcases toNat_ofNat (c.toNat + run.shift).toNat with same | none <;> omega

theorem lowerChar_isCapital (c : Char) : ∀ d ∈ lowerChar c, isCapital d = false := by
  unfold lowerChar
  split
  case isTrue => exact lowerAscii_isCapital [c]
  case isFalse beyond =>
    split
    case isTrue => exact List.forall_mem_cons.mpr ⟨by decide, List.forall_mem_singleton.mpr (by decide)⟩
    case isFalse => simpa using shifted_isCapital beyond

end Text

namespace Column

/-- A bare name as a warehouse compares it. -/
def folded (name : String) : List Char := Text.lowerAscii name.toList

theorem folded_numbered (name : String) (k : Nat) :
    folded s!"{name}_{k}" = folded name ++ '_' :: Nat.toDigits 10 k := by
  have digits : Text.lowerAscii (Nat.toDigits 10 k) = Nat.toDigits 10 k :=
    Text.lowerAscii_eq_self fun c member =>
      Text.isCapital_digit (Nat.isDigit_of_mem_toDigits (by decide) (by decide) member)
  rw [folded, toList_numbered, Text.lowerAscii_append, ← List.singleton_append, Text.lowerAscii_append, digits]
  rfl

theorem folded_numbered_injective (name : String) : Function.Injective fun k : Nat => folded s!"{name}_{k}" := by
  intro m n same
  dsimp only at same
  rw [folded_numbered, folded_numbered] at same
  exact toDigits_injective (List.tail_eq_of_cons_eq (List.append_cancel_left same))

/-- No column is another one, or one of those that are there anyway. -/
structure Unambiguous (fixed : List String) (bindings : List Binding) : Prop where
  apart : (bindings.map (folded ·.name)).Nodup
  free : ∀ b ∈ bindings, ∀ name ∈ fixed, folded b.name ≠ folded name

/-! The resolution that keeps names apart in any case. -/

/-- The name itself, else the first numbered one that is not taken. -/
def freshFolded (taken : List String) (name : String) : String :=
  if folded name ∈ taken.map folded then
    let numbered := (List.range' 2 (taken.length + 1)).map fun k => s!"{name}_{k}"
    (numbered.find? (folded · ∉ taken.map folded)).getD name
  else name

def resolveFolded (taken : List String) : List Binding → List Binding
  | [] => []
  | b :: rest =>
    let name := freshFolded taken b.name
    ⟨b.path, name⟩ :: resolveFolded (name :: taken) rest

theorem freshFolded_not_mem (taken : List String) (name : String) :
    folded (freshFolded taken name) ∉ taken.map folded := by
  unfold freshFolded
  split
  case isFalse new => exact new
  case isTrue =>
    obtain ⟨k, inRange, free⟩ := exists_free (folded_numbered_injective name) (taken.map folded)
    rw [List.length_map] at inRange
    dsimp only
    cases found : ((List.range' 2 (taken.length + 1)).map fun k : Nat => s!"{name}_{k}").find?
        (folded · ∉ taken.map folded) with
    | none =>
      exact absurd (List.find?_eq_none.mp found _ (List.mem_map_of_mem inRange)) (by simpa using free)
    | some numbered => simpa using List.find?_some found

theorem resolveFolded_unambiguous (taken : List String) (bindings : List Binding) :
    Unambiguous taken (resolveFolded taken bindings) := by
  induction bindings generalizing taken with
  | nil => exact ⟨List.nodup_nil, by simp [resolveFolded]⟩
  | cons b rest ih =>
    obtain ⟨apart, free⟩ := ih (freshFolded taken b.name :: taken)
    have new := freshFolded_not_mem taken b.name
    refine ⟨List.nodup_cons.mpr ⟨?_, apart⟩, List.forall_mem_cons.mpr ⟨?_, ?_⟩⟩
    · intro again
      obtain ⟨c, member, same⟩ := List.mem_map.mp again
      exact free c member _ (by simp) same
    · exact fun name old same => new (List.mem_map.mpr ⟨name, old, same.symm⟩)
    · exact fun c member name old => free c member name (List.mem_cons_of_mem _ old)

/-- A name that is free in any case is the one that both resolutions give out. -/
theorem freshFolded_eq {taken fixed : List String} {name : String}
    (free : folded (fresh taken name) ∉ (taken ++ fixed).map folded) :
    freshFolded (taken ++ fixed) name = fresh taken name := by
  rcases fresh_cases taken name with ⟨-, same⟩ | ⟨again, found⟩
  · rw [same] at free ⊢
    exact if_neg free
  · have known : folded name ∈ (taken ++ fixed).map folded :=
      List.mem_map_of_mem (List.mem_append_left fixed again)
    obtain ⟨-, before, after, split, refused⟩ := List.find?_eq_some_iff_append.mp found
    -- the numbers to try are more than before, but the first of them are the same
    have range : List.range' 2 ((taken ++ fixed).length + 1) =
        List.range' 2 (taken.length + 1) ++ List.range' (2 + (taken.length + 1)) fixed.length := by
      rw [List.range'_append_1, List.length_append]
      congr 1
      omega
    have tried := congrArg (List.map fun k : Nat => s!"{name}_{k}") range
    rw [List.map_append, split, List.append_assoc] at tried
    have first : ((List.range' 2 ((taken ++ fixed).length + 1)).map fun k : Nat => s!"{name}_{k}").find?
        (folded · ∉ (taken ++ fixed).map folded) = some (fresh taken name) := by
      rw [tried, List.find?_eq_some_iff_append]
      refine ⟨by simpa using free, before, _, rfl, fun earlier member => ?_⟩
      have old : earlier ∈ taken := by simpa using refused earlier member
      simpa using List.mem_map_of_mem (List.mem_append_left fixed old)
    unfold freshFolded
    rw [if_pos known]
    dsimp only
    rw [first, Option.getD_some]

theorem resolveAfter_eq_resolveFolded {taken fixed : List String} {bindings : List Binding}
    (clear : Unambiguous (taken ++ fixed) (resolveAfter taken bindings)) :
    resolveAfter taken bindings = resolveFolded (taken ++ fixed) bindings := by
  induction bindings generalizing taken with
  | nil => rfl
  | cons b rest ih =>
    obtain ⟨apart, free⟩ := clear
    obtain ⟨new, apart⟩ := List.nodup_cons.mp apart
    obtain ⟨freeFirst, freeRest⟩ := List.forall_mem_cons.mp free
    have name : freshFolded (taken ++ fixed) b.name = fresh taken b.name := by
      refine freshFolded_eq fun known => ?_
      obtain ⟨old, member, same⟩ := List.mem_map.mp known
      exact freeFirst old member same.symm
    have clearRest : Unambiguous (fresh taken b.name :: (taken ++ fixed))
        (resolveAfter (fresh taken b.name :: taken) rest) :=
      ⟨apart, fun c member => List.forall_mem_cons.mpr
        ⟨fun same => new (List.mem_map.mpr ⟨c, member, same⟩), freeRest c member⟩⟩
    rw [resolveAfter, resolveFolded, name, ← List.cons_append, ← ih clearRest]

/-- Resolution leaves no column ambiguous exactly where it gives out the names that are apart in any case. -/
theorem unambiguous_resolve_iff (fixed : List String) (bindings : List Binding) :
    Unambiguous fixed (resolve bindings) ↔ resolve bindings = resolveFolded fixed bindings := by
  constructor
  · exact fun clear => resolveAfter_eq_resolveFolded clear
  · intro same
    rw [same]
    exact resolveFolded_unambiguous fixed bindings

/-! Where the names come from. -/

/-- The name of a binding is given out, if not to this one. -/
theorem mem_resolveAfter {taken : List String} {bindings : List Binding} {b : Binding} (member : b ∈ bindings) :
    b.name ∈ taken ∨ b.name ∈ (resolveAfter taken bindings).map (·.name) := by
  induction bindings generalizing taken with
  | nil => cases member
  | cons first rest ih =>
    rw [resolveAfter, List.map_cons, List.mem_cons]
    rcases List.mem_cons.mp member with rfl | later
    · rcases fresh_cases taken b.name with ⟨-, same⟩ | ⟨again, -⟩
      · exact .inr (.inl same.symm)
      · exact .inl again
    · rcases ih later with known | given
      · exact (List.mem_cons.mp known).elim (fun here => .inr (.inl here)) .inl
      · exact .inr (.inr given)

theorem resolveAfter_origin {taken : List String} {bindings : List Binding} {b : Binding}
    (member : b ∈ resolveAfter taken bindings) :
    ∃ c ∈ bindings, c.path = b.path ∧ (b.name = c.name ∨ ∃ k : Nat, b.name = s!"{c.name}_{k}") := by
  induction bindings generalizing taken with
  | nil => cases member
  | cons first rest ih =>
    rw [resolveAfter] at member
    rcases List.mem_cons.mp member with rfl | later
    · exact ⟨first, List.mem_cons_self, rfl, fresh_eq_or taken first.name⟩
    · obtain ⟨c, listed, origin⟩ := ih later
      exact ⟨c, List.mem_cons_of_mem _ listed, origin⟩

/-- A name without a number at its end is met exactly where a path is cleaned to it. -/
theorem exists_resolve_folded_iff {name : String} (unnumbered : ∀ c ∈ name.toList.getLast?, ¬c.isDigit)
    (bindings : List Binding) :
    (∃ b ∈ resolve bindings, folded b.name = folded name) ↔ ∃ b ∈ bindings, folded b.name = folded name := by
  constructor
  · rintro ⟨b, member, same⟩
    obtain ⟨c, listed, -, plain | ⟨k, numbered⟩⟩ := resolveAfter_origin member
    · exact ⟨c, listed, plain ▸ same⟩
    · rw [numbered, folded_numbered] at same
      have last := List.getLast?_eq_some_getLast (Nat.toDigits_ne_nil (b := 10) (n := k))
      generalize (Nat.toDigits 10 k).getLast _ = d at last
      have digit : d.isDigit := Nat.isDigit_of_mem_toDigits (by decide) (by decide) (List.mem_of_getLast? last)
      refine absurd digit (unnumbered d (Text.getLast?_of_lowerAscii digit ?_))
      rw [← folded, ← same]
      simp [List.getLast?_append, List.getLast?_cons, last]
  · rintro ⟨b, member, same⟩
    obtain ⟨given, named, path⟩ := List.mem_map.mp ((mem_resolveAfter member).resolve_left List.not_mem_nil)
    exact ⟨given, named, path ▸ same⟩

/-! Nested paths. -/

/-- A path with a part of its own for the value. -/
def IsNested (path : String) : Prop := ':' ∈ path.toList ∨ '.' ∈ path.toList

theorem snakeFrom_isCapital (previous : Option Char) (s : List Char) :
    ∀ c ∈ snakeFrom previous s, Text.isCapital c = false := by
  induction s generalizing previous with
  | nil => simp [snakeFrom]
  | cons c rest ih =>
    have lowered : ∀ d ∈ Text.lowerChar c ++ snakeFrom (some c) rest, Text.isCapital d = false :=
      List.forall_mem_append.mpr ⟨Text.lowerChar_isCapital c, ih (some c)⟩
    rw [snakeFrom]
    split
    · exact List.forall_mem_cons.mpr ⟨by decide, lowered⟩
    · exact lowered

theorem pathEnd_nested {path : String} (nested : IsNested path) :
    ∃ after, pathEnd path.toList = snakeCase after := by
  unfold pathEnd
  cases colon : Text.splitFirst ':' path.toList with
  | some parts => exact ⟨_, rfl⟩
  | none =>
    cases point : Text.afterLast '.' path.toList with
    | some after => exact ⟨_, rfl⟩
    | none => exact absurd nested (not_or.mpr ⟨Text.splitFirst_eq_none.mp colon, Text.afterLast_eq_none.mp point⟩)

/-- The column of a nested path is written in small letters. -/
theorem ofPath_nested {path : String} (nested : IsNested path) :
    ∀ c ∈ (ofPath path).toList, Text.isCapital c = false := by
  obtain ⟨after, snake⟩ := pathEnd_nested nested
  have small : ∀ c ∈ safe (pathEnd path.toList), Text.isCapital c = false := by
    intro c member
    rw [snake] at member
    obtain ⟨d, origin, rfl⟩ := List.mem_map.mp member
    split
    · exact snakeFrom_isCapital none after d origin
    · decide
  unfold ofPath
  dsimp only
  split
  · rw [String.toList_append, String.toList_ofList]
    have suffix : "_col".toList = ['_', 'c', 'o', 'l'] := rfl
    rw [suffix]
    exact List.forall_mem_append.mpr ⟨Text.lowerAscii_isCapital _, by simp [Text.isCapital]⟩
  · rwa [String.toList_ofList]

/-- Names in small letters are apart in any case once they are spelled apart. -/
theorem resolve_folded_nodup {bindings : List Binding}
    (small : ∀ b ∈ bindings, ∀ c ∈ b.name.toList, Text.isCapital c = false) :
    ((resolve bindings).map (folded ·.name)).Nodup := by
  have plain : ∀ b ∈ resolve bindings, folded b.name = b.name.toList := by
    intro b member
    obtain ⟨c, listed, -, same | ⟨k, numbered⟩⟩ := resolveAfter_origin member
    · rw [same, folded, Text.lowerAscii_eq_self (small c listed)]
    · rw [numbered, folded_numbered, toList_numbered, folded, Text.lowerAscii_eq_self (small c listed)]
  have names : (resolve bindings).map (folded ·.name) = ((resolve bindings).map (·.name)).map String.toList := by
    rw [List.map_map]
    exact List.map_congr_left plain
  rw [names]
  exact (resolve_names_nodup bindings).map fun _ _ => String.toList_inj.mp

end Column

end AttributeStore
