import AttributeStore.Text.Utf8
import Mathlib.Tactic.IntervalCases

/-! Characters written as bytes and read back. The first byte of a character holds its highest bits and says how many
bytes follow, six bits in each; the ranges for the first of them refuse no character. -/
namespace AttributeStore.Text

/-- A byte that goes on with a character adds its six bits. -/
theorem takeByte_inside {c : Begun} {k : Nat} (bits : k < 64) (inside : c.low ≤ k + 128 ∧ k + 128 ≤ c.high) :
    takeByte (some c) (UInt8.ofNat (k + 128)) =
      if c.owed = 1 then ([Char.ofNat (64 * c.bits + k)], none)
      else ([], some ⟨64 * c.bits + k, c.owed - 1, 0x80, 0xbf⟩) := by
  have byte : (UInt8.ofNat (k + 128)).toNat = k + 128 := by simp; omega
  simp only [takeByte, byte, Begun.nextByte, if_pos inside, Nat.add_sub_cancel]

theorem fromUtf8At_inside {c : Begun} {k : Nat} (bits : k < 64) (inside : c.low ≤ k + 128 ∧ k + 128 ≤ c.high)
    (more : c.owed ≠ 1) (rest : List UInt8) :
    fromUtf8At (some c) (UInt8.ofNat (k + 128) :: rest) =
      fromUtf8At (some ⟨64 * c.bits + k, c.owed - 1, 0x80, 0xbf⟩) rest := by
  rw [fromUtf8At, takeByte_inside bits inside, if_neg more, List.nil_append]

theorem fromUtf8At_end {c : Begun} {k : Nat} (bits : k < 64) (inside : c.low ≤ k + 128 ∧ k + 128 ≤ c.high)
    (last : c.owed = 1) (rest : List UInt8) :
    fromUtf8At (some c) (UInt8.ofNat (k + 128) :: rest) = Char.ofNat (64 * c.bits + k) :: fromUtf8At none rest := by
  rw [fromUtf8At, takeByte_inside bits inside, if_pos last, List.singleton_append]

theorem fromUtf8At_begin {b : Nat} {c : Begun} (byte : b < 256) (high : ¬b < 0x80) (begins : Begun.ofByte? b = some c)
    (rest : List UInt8) : fromUtf8At none (UInt8.ofNat b :: rest) = fromUtf8At (some c) rest := by
  have same : (UInt8.ofNat b).toNat = b := by simp; omega
  rw [fromUtf8At, takeByte, firstByte, same, if_neg high, begins, List.nil_append]

theorem ofByte?_two {n : Nat} (low : 2 ≤ n) (high : n < 32) :
    Begun.ofByte? (n + 192) = some ⟨n, 1, 0x80, 0xbf⟩ := by
  rw [Begun.ofByte?, if_pos (by omega), Nat.add_sub_cancel]

/-- The second of three bytes is held against too long forms and surrogates. -/
theorem ofByte?_three {n : Nat} (small : n < 16) : ∃ low high, Begun.ofByte? (n + 224) = some ⟨n, 2, low, high⟩ ∧
    ∀ next < 64, (n = 0 → 32 ≤ next) → (n = 13 → next < 32) → low ≤ next + 128 ∧ next + 128 ≤ high := by
  interval_cases n <;> exact ⟨_, _, rfl, fun next _ _ _ => by omega⟩

/-- The second of four bytes is held against too long forms and numbers above the last character. -/
theorem ofByte?_four {n : Nat} (small : n < 5) : ∃ low high, Begun.ofByte? (n + 240) = some ⟨n, 3, low, high⟩ ∧
    ∀ next < 64, (n = 0 → 16 ≤ next) → (n = 4 → next < 16) → low ≤ next + 128 ∧ next + 128 ≤ high := by
  interval_cases n <;> exact ⟨_, _, rfl, fun next _ _ _ => by omega⟩

/-- A written character is read as that character, whatever follows it. -/
theorem fromUtf8At_utf8EncodeChar (c : Char) (rest : List UInt8) :
    fromUtf8At none (String.utf8EncodeChar c ++ rest) = c :: fromUtf8At none rest := by
  have valid : c.toNat < 0xd800 ∨ 0xdfff < c.toNat ∧ c.toNat < 0x110000 := c.valid
  have whole {n : Nat} (same : n = c.toNat) : Char.ofNat n = c := by rw [same, Char.ofNat_toNat]
  have number : c.val.toNat = c.toNat := rfl
  unfold String.utf8EncodeChar
  dsimp only
  rw [number]
  split
  case isTrue one =>
    have byte : (UInt8.ofNat c.toNat).toNat = c.toNat := by simp; omega
    have ascii : c.toNat < 0x80 := by omega
    rw [List.singleton_append, fromUtf8At, takeByte, firstByte, byte, if_pos ascii, Char.ofNat_toNat,
      List.singleton_append]
  split
  case isTrue two =>
    have begins := ofByte?_two (n := c.toNat / 64 % 32) (by omega) (by omega)
    rw [List.cons_append, List.singleton_append, fromUtf8At_begin (by omega) (by omega) begins,
      fromUtf8At_end (by omega) (by dsimp only; omega) rfl, whole (by dsimp only; omega)]
  split
  case isTrue three =>
    obtain ⟨low, high, begins, inside⟩ := ofByte?_three (n := c.toNat / 4096 % 16) (by omega)
    have second := inside (c.toNat / 64 % 64) (by omega) (by omega) (by omega)
    rw [List.cons_append, List.cons_append, List.singleton_append, fromUtf8At_begin (by omega) (by omega) begins,
      fromUtf8At_inside (by omega) second (Nat.succ_ne_self 1), fromUtf8At_end (by omega) (by dsimp only; omega) rfl,
      whole (by dsimp only; omega)]
  case isFalse =>
    obtain ⟨low, high, begins, inside⟩ := ofByte?_four (n := c.toNat / 262144 % 8) (by omega)
    have second := inside (c.toNat / 4096 % 64) (by omega) (by omega) (by omega)
    rw [List.cons_append, List.cons_append, List.cons_append, List.singleton_append,
      fromUtf8At_begin (by omega) (by omega) begins, fromUtf8At_inside (by omega) second (by simp),
      fromUtf8At_inside (by omega) (by dsimp only; omega) (by simp),
      fromUtf8At_end (by omega) (by dsimp only; omega) rfl, whole (by dsimp only; omega)]

theorem toUtf8_append (first second : List Char) : toUtf8 (first ++ second) = toUtf8 first ++ toUtf8 second :=
  List.flatMap_append

theorem fromUtf8_toUtf8 (s : List Char) : fromUtf8 (toUtf8 s) = s := by
  induction s with
  | nil => rfl
  | cons c rest ih =>
    rw [fromUtf8, toUtf8, List.flatMap_cons, fromUtf8At_utf8EncodeChar]
    exact congrArg (c :: ·) ih

/-- A byte of a character is its number or lies above ASCII. -/
theorem mem_utf8EncodeChar {c : Char} {b : UInt8} (member : b ∈ String.utf8EncodeChar c) :
    b.toNat = c.toNat ∨ 128 ≤ b.toNat := by
  have number : c.val.toNat = c.toNat := rfl
  unfold String.utf8EncodeChar at member
  dsimp only at member
  rw [number] at member
  split at member
  case isTrue one =>
    obtain rfl := List.mem_singleton.mp member
    left
    simp
    omega
  case isFalse =>
    right
    split_ifs at member
    all_goals
      simp only [List.mem_cons, List.not_mem_nil, or_false] at member
      rcases member with rfl | rfl | rfl | rfl
    all_goals
      simp
      omega

/-- The bytes of a text hold a line feed only where the text does. -/
theorem lineFeed_notMem_toUtf8 {s : List Char} (absent : '\n' ∉ s) : 10 ∉ toUtf8 s := by
  intro member
  obtain ⟨c, its, written⟩ := List.mem_flatMap.mp member
  rcases mem_utf8EncodeChar written with same | high
  · have : c = '\n' := by rw [← Char.ofNat_toNat c, ← same]; rfl
    exact absent (this ▸ its)
  · exact absurd high (by decide)

end AttributeStore.Text
