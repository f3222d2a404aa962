import Chip8.Proofs.Pattern
import Mathlib.Algebra.Group.Nat.Defs
import Mathlib.Tactic.FinCases

/-!
# Words are read without loss

A word arrives as a signed 32-bit number. Its kind and its operands are read from its low sixteen
bits, and nothing of these is lost: the pattern that a word matches fixes some of its four digits,
and the operands hold the others.

Results:
1. `countP_accepts_le_one`, `classifyBy_of_perm`: one pattern matches at most, so that the order of
   the table has no part in the kind.
2. `low_eq_iff`, `decode_congr`: what counts of a word is its remainder by 65536.
3. `fill_of_accepts`, `encode_decode`: the digits of a pattern and the operands give the word back.
4. `decoding_lossless`: all of this for every word.
-/

namespace Chip8

/-! ## One pattern at most -/

theorem countP_accepts_le_one (word : Int32) : patterns.countP (·.accepts word) ≤ 1 := by
  rw [List.countP_eq_length_filter]
  have apart := patterns_apart.filter (·.accepts word)
  have accepted : ∀ pattern ∈ patterns.filter (·.accepts word), pattern.accepts word = true :=
    fun pattern listed => (List.mem_filter.mp listed).2
  cases found : patterns.filter (·.accepts word) with
  | nil => exact Nat.zero_le _
  | cons first rest =>
    cases rest with
    | nil => exact Nat.le_refl _
    | cons second rest =>
      rw [found] at apart accepted
      have refused := (List.rel_of_pairwise_cons apart List.mem_cons_self).not_accepts
        (accepted second (List.mem_cons_of_mem _ List.mem_cons_self))
      rw [accepted first List.mem_cons_self] at refused
      exact absurd refused (by decide)

/-- A word is of no kind, or a pattern matches it and gives it its kind. -/
theorem unknown_or_listed (word : Int32) :
    classify word = .unknown ∨
      ∃ pattern ∈ patterns, pattern.accepts word = true ∧ classify word = pattern.op := by
  by_cases refused : ∀ pattern ∈ patterns, pattern.accepts word = false
  · exact .inl ((classify_eq_unknown_iff word).mpr refused)
  · push Not at refused
    obtain ⟨pattern, listed, matched⟩ := refused
    have accepted : pattern.accepts word = true := Bool.eq_true_of_not_eq_false matched
    exact .inr ⟨pattern, listed, accepted, (classify_eq_op_iff listed word).mpr accepted⟩

/-- A table of the same patterns in another order names the same kinds. -/
theorem classifyBy_of_perm {table : List Pattern} (shuffled : table.Perm patterns) (word : Int32) :
    classifyBy table word = classify word := by
  cases found : table.find? (·.accepts word) with
  | none =>
    have refused : ∀ pattern ∈ patterns, pattern.accepts word = false := fun pattern listed => by
      have missed := List.find?_eq_none.mp found pattern (shuffled.mem_iff.mpr listed)
      simpa using missed
    rw [classifyBy, found, (classify_eq_unknown_iff word).mpr refused]
  | some pattern =>
    have listed := shuffled.mem_iff.mp (List.mem_of_find?_eq_some found)
    have accepted := List.find?_some found
    rw [classifyBy, found, (classify_eq_op_iff listed word).mpr accepted]

/-! ## The low sixteen bits -/

namespace Word

variable {word other : Int32}

theorem toNat_low (word : Int32) : (low word).toNat = unsigned word % 0x10000 := by
  simp [low]

/-- A negative word counts with the digits of its two's complement. -/
theorem toNat_low_eq_emod (word : Int32) : ((low word).toNat : Int) = word.toInt % 0x10000 := by
  have signed : word.toInt =
      if 2 * unsigned word < 2 ^ 32 then (unsigned word : Int)
      else (unsigned word : Int) - (2 ^ 32 : Nat) :=
    BitVec.toInt_eq_toNat_cond word.toBitVec
  rw [toNat_low, signed]
  split <;> omega

theorem low_eq_iff : low other = low word ↔ other.toInt % 0x10000 = word.toInt % 0x10000 := by
  rw [← toNat_low_eq_emod, ← toNat_low_eq_emod, Int.ofNat_inj, UInt16.toNat_inj]

theorem val_x (word : Int32) : (x word).val = (low word).toNat / 0x100 % 16 := by
  rw [toNat_low, x, Fin.val_ofNat]
  omega

theorem val_y (word : Int32) : (y word).val = (low word).toNat / 0x10 % 16 := by
  rw [toNat_low, y, Fin.val_ofNat]
  omega

theorem val_n (word : Int32) : (n word).val = (low word).toNat % 16 := by
  rw [toNat_low, n, Fin.val_ofNat]
  omega

theorem toNat_nn (word : Int32) : (nn word).toNat = (low word).toNat % 0x100 := by
  rw [toNat_low, nn, UInt8.toNat_ofNat']
  omega

theorem toNat_nnn (word : Int32) : (nnn word).toNat = (low word).toNat % 0x1000 := by
  rw [toNat_low, nnn, UInt16.toNat_ofNat']
  omega

theorem nn_eq (word : Int32) : (nn word).toNat = 16 * (y word).val + (n word).val := by
  rw [toNat_nn, val_y, val_n]
  omega

theorem nnn_eq (word : Int32) : (nnn word).toNat = 256 * (x word).val + (nn word).toNat := by
  rw [toNat_nnn, val_x, toNat_nn]
  omega

section

variable (same : low other = low word)
include same

theorem x_congr : x other = x word := by
  rw [Fin.ext_iff, val_x, val_x, same]

theorem y_congr : y other = y word := by
  rw [Fin.ext_iff, val_y, val_y, same]

theorem n_congr : n other = n word := by
  rw [Fin.ext_iff, val_n, val_n, same]

theorem nn_congr : nn other = nn word := by
  rw [← UInt8.toNat_inj, toNat_nn, toNat_nn, same]

theorem nnn_congr : nnn other = nnn word := by
  rw [← UInt16.toNat_inj, toNat_nnn, toNat_nnn, same]

end

end Word

/-- Masks and values have sixteen bits, so that a pattern matches by the low bits of a word. -/
theorem Pattern.accepts_iff_low {pattern : Pattern} (listed : pattern ∈ patterns) (word : Int32) :
    pattern.accepts word = true ↔
      (Word.low word).toNat &&& pattern.mask.toNat = pattern.value.toNat := by
  have narrow : pattern.mask.toNat < 2 ^ 16 :=
    UInt32.lt_iff_toNat_lt.mp (patterns_narrow pattern listed).1
  have cut : Word.unsigned word &&& pattern.mask.toNat =
      (Word.low word).toNat &&& pattern.mask.toNat := by
    rw [Word.toNat_low, ← Nat.mod_eq_of_lt (Nat.lt_of_le_of_lt Nat.and_le_right narrow),
      Nat.and_mod_two_pow, Nat.mod_eq_of_lt narrow]
  rw [accepts, beq_iff_eq, ← UInt32.toNat_inj, UInt32.toNat_and, ← cut]
  rfl

theorem Pattern.accepts_congr {pattern : Pattern} (listed : pattern ∈ patterns)
    {word other : Int32} (same : Word.low other = Word.low word) :
    pattern.accepts other = pattern.accepts word := by
  rw [Bool.eq_iff_iff, accepts_iff_low listed, accepts_iff_low listed, same]

theorem classify_congr {word other : Int32} (same : Word.low other = Word.low word) :
    classify other = classify word := by
  rcases unknown_or_listed word with unknown | ⟨pattern, listed, accepted, kind⟩
  · rw [unknown, classify_eq_unknown_iff]
    intro pattern listed
    rw [Pattern.accepts_congr listed same]
    exact (classify_eq_unknown_iff word).mp unknown pattern listed
  · rw [kind, classify_eq_op_iff listed, Pattern.accepts_congr listed same]
    exact accepted

/-- Two words with the same low sixteen bits stand for one instruction. -/
theorem decode_congr {word other : Int32} (same : Word.low other = Word.low word) :
    Instruction.decode other = Instruction.decode word := by
  unfold Instruction.decode
  rw [classify_congr same, Word.x_congr same, Word.y_congr same, Word.n_congr same,
    Word.nn_congr same, Word.nnn_congr same, same]

/-! ## Digits and operands -/

/-- The value of the pattern with operands in the digits that its mask leaves free. -/
def Pattern.fill (pattern : Pattern) (x y n : Fin 16) : Nat :=
  pattern.value.toNat + (if pattern.mask.toNat / 0x100 % 16 = 0 then 0x100 * x.val else 0) +
    (if pattern.mask.toNat / 0x10 % 16 = 0 then 0x10 * y.val else 0) +
    (if pattern.mask.toNat % 16 = 0 then n.val else 0)

/-- A digit of what a mask lets through. -/
theorem digit_and (number mask place : Nat) :
    (number &&& mask) / 2 ^ place % 16 = (number / 2 ^ place % 16) &&& (mask / 2 ^ place % 16) := by
  rw [Nat.and_div_two_pow]
  exact Nat.and_mod_two_pow (n := 4)

/-- A mask lets each digit through or stops it as a whole, and the first one it lets through. -/
theorem patterns_mask : ∀ pattern ∈ patterns,
    pattern.mask = 0xFFFF ∨ pattern.mask = 0xF000 ∨ pattern.mask = 0xF00F ∨
      pattern.mask = 0xF0FF := by
  decide

theorem fill_of_accepts {pattern : Pattern} (listed : pattern ∈ patterns) {word : Int32}
    (accepted : pattern.accepts word = true) :
    pattern.fill (Word.x word) (Word.y word) (Word.n word) = (Word.low word).toNat := by
  have small := (Word.low word).toNat_lt
  have value := (Pattern.accepts_iff_low listed word).mp accepted
  have narrow : pattern.value.toNat < 0x10000 :=
    UInt32.lt_iff_toNat_lt.mp (patterns_narrow pattern listed).2
  have first := digit_and (Word.low word).toNat pattern.mask.toNat 12
  have second := digit_and (Word.low word).toNat pattern.mask.toNat 8
  have third := digit_and (Word.low word).toNat pattern.mask.toNat 4
  have fourth := digit_and (Word.low word).toNat pattern.mask.toNat 0
  have whole (digit : Nat) : (digit % 16) &&& 15 = digit % 16 :=
    (Nat.and_two_pow_sub_one_eq_mod _ 4).trans (Nat.mod_mod _ _)
  rw [value] at first second third fourth
  rw [Pattern.fill, Word.val_x, Word.val_y, Word.val_n]
  -- A digit under the mask is one of the value, a digit beside it is zero there and an operand.
  rcases patterns_mask pattern listed with mask | mask | mask | mask <;>
  · simp only [mask, UInt32.reduceToNat, Nat.reducePow, Nat.reduceDiv, Nat.reduceMod, whole,
      Nat.and_zero, Nat.div_one] at first second third fourth
    simp only [mask, UInt32.reduceToNat, Nat.reduceDiv, Nat.reduceMod, Nat.reduceEqDiff, if_true,
      if_false]
    omega

/-- Writing the instruction of a word fills the pattern of its kind with the operands. -/
theorem toNat_encode_decode {pattern : Pattern} (listed : pattern ∈ patterns) {word : Int32}
    (kind : classify word = pattern.op) :
    (Instruction.decode word).encode.toNat =
      pattern.fill (Word.x word) (Word.y word) (Word.n word) := by
  have x := (Word.x word).isLt
  have y := (Word.y word).isLt
  have n := (Word.n word).isLt
  rw [Instruction.decode, kind]
  fin_cases listed
  -- One case for each pattern, which compares two sums of its value and its operands.
  all_goals
    simp only [Instruction.encode, Instruction.digits, Pattern.fill, Word.nnn_eq, Word.nn_eq,
      UInt16.toNat_add, UInt16.toNat_ofNat', UInt16.reduceToNat, UInt8.toNat_toUInt16,
      UInt32.reduceToNat, Nat.reduceDiv, Nat.reduceMod, Nat.reduceEqDiff, if_true, if_false]
  all_goals omega

theorem encode_decode (word : Int32) : (Instruction.decode word).encode = Word.low word := by
  rcases unknown_or_listed word with unknown | ⟨pattern, listed, accepted, kind⟩
  · rw [Instruction.decode, unknown, Instruction.encode]
  · rw [← UInt16.toNat_inj, toNat_encode_decode listed kind, fill_of_accepts listed accepted]

/-- Words are read without loss. One pattern matches a word at most, so that every order of the table
gives it the same kind, and it is of no kind exactly if none matches. The kind and the operands
depend on the remainder of the word by 65536 alone, also where the word is negative; the operands are
digits of this remainder, and the value of the pattern that matches gives it back when they are put
into the digits that the mask leaves free, as does the instruction when it is written. So every state
carries out the word as it does its remainder. -/
theorem decoding_lossless (word : Int32) :
    let low := word.toInt % 0x10000
    (patterns.countP (·.accepts word) ≤ 1 ∧
      (∀ table : List Pattern, table.Perm patterns → classifyBy table word = classify word) ∧
      (classify word = .unknown ↔ ∀ pattern ∈ patterns, pattern.accepts word = false)) ∧
    (∀ other : Int32, other.toInt % 0x10000 = low →
      classify other = classify word ∧ Word.x other = Word.x word ∧ Word.y other = Word.y word ∧
      Word.n other = Word.n word ∧ Word.nn other = Word.nn word ∧
      Word.nnn other = Word.nnn word) ∧
    ((Word.nn word).toNat = 16 * (Word.y word).val + (Word.n word).val ∧
      (Word.nnn word).toNat = 256 * (Word.x word).val + (Word.nn word).toNat ∧
      low = 4096 * (word.toInt / 4096 % 16) + (Word.nnn word).toNat) ∧
    ((∀ pattern ∈ patterns, pattern.accepts word = true →
        classify word = pattern.op ∧
        (pattern.fill (Word.x word) (Word.y word) (Word.n word) : Int) = low) ∧
      ((Instruction.decode word).encode.toNat : Int) = low) ∧
    ∀ state : State, state.execute word = state.execute (Int32.ofInt low) := by
  intro low
  have remainder : ((Word.low word).toNat : Int) = low := Word.toNat_low_eq_emod word
  refine ⟨⟨countP_accepts_le_one word, fun _ shuffled => classifyBy_of_perm shuffled word,
    classify_eq_unknown_iff word⟩, ?_, ⟨Word.nn_eq word, Word.nnn_eq word, ?_⟩, ⟨?_, ?_⟩, ?_⟩
  · intro other equal
    have same := Word.low_eq_iff.mpr equal
    exact ⟨classify_congr same, Word.x_congr same, Word.y_congr same, Word.n_congr same,
      Word.nn_congr same, Word.nnn_congr same⟩
  · rw [Word.toNat_nnn]
    omega
  · intro pattern listed accepted
    rw [fill_of_accepts listed accepted]
    exact ⟨(classify_eq_op_iff listed word).mpr accepted, remainder⟩
  · rw [encode_decode]
    exact remainder
  · intro state
    have number : (Int32.ofInt low).toInt = low :=
      Int32.toInt_ofInt_of_le (by omega) (by omega)
    have same : Word.low (Int32.ofInt low) = Word.low word :=
      Word.low_eq_iff.mpr (by rw [number]; exact Int.emod_emod _ _)
    exact congrArg (state.performWith Edge.last) (decode_congr same).symm

/-- A negative word, under the table in its reverse order. -/
theorem decoding_lossless_negative :
    let word : Int32 := -38144
    let pattern : Pattern := ⟨0xF000, 0x6000, .setByte⟩
    word.toInt % 0x10000 = 0x6B00 ∧ patterns.reverse.Perm patterns ∧
    (0x6B00 : Int32).toInt % 0x10000 = word.toInt % 0x10000 ∧
    pattern ∈ patterns ∧ pattern.accepts word = true ∧
    classifyBy patterns.reverse word = .setByte ∧ classify 0x6B00 = .setByte ∧
    Word.x 0x6B00 = Word.x word ∧
    (pattern.fill (Word.x word) (Word.y word) (Word.n word) : Int) = 0x6B00 := by
  intro word pattern
  have remainder : word.toInt % 0x10000 = 0x6B00 := by decide
  have reversed : patterns.reverse.Perm patterns := List.reverse_perm _
  have equal : (0x6B00 : Int32).toInt % 0x10000 = word.toInt % 0x10000 := by decide
  have listed : pattern ∈ patterns := by decide
  have accepted : pattern.accepts word = true := by decide
  obtain ⟨⟨-, orders, -⟩, others, -, ⟨fills, -⟩, -⟩ := decoding_lossless word
  obtain ⟨kind, filled⟩ := fills pattern listed accepted
  obtain ⟨sameKind, sameX, -⟩ := others 0x6B00 equal
  exact ⟨remainder, reversed, equal, listed, accepted, (orders _ reversed).trans kind,
    sameKind.trans kind, sameX, filled.trans remainder⟩

end Chip8
