import Chip8.Proofs.Step

/-!
# The pattern of a word

No word matches two patterns of the instruction set, so the kind of a word says which pattern it
matches, whatever the order of the table. For the 16-bit words that a machine fetches the patterns
are masks of sixteen bits, and the operands are digits of the word.

Results:
1. `patterns_apart`: the patterns exclude one another.
2. `classify_eq_op_iff`, `classify_eq_unknown_iff`: a kind is named exactly when its pattern
   accepts, and no kind when no pattern does.
3. `op_ofWord_iff`: the kind of a fetched word, by the mask of its pattern.
4. `address_decode_le`, `toNat_x`: addresses have twelve bits; `VX` is named by the second digit.
-/

namespace Chip8

/-! ## Patterns exclude one another -/

/-- The patterns ask for different digits where both have digits. -/
def Pattern.Apart (one other : Pattern) : Prop :=
  one.value &&& other.mask ≠ other.value &&& one.mask

instance (one other : Pattern) : Decidable (one.Apart other) :=
  inferInstanceAs (Decidable (_ ≠ _))

theorem patterns_apart : patterns.Pairwise Pattern.Apart := by decide +kernel

theorem Pattern.Apart.not_accepts {one other : Pattern} (apart : one.Apart other) {word : Int32}
    (accepted : other.accepts word = true) : one.accepts word = false := by
  rw [Bool.eq_false_iff]
  intro accepted'
  rw [accepts, beq_iff_eq] at accepted accepted'
  -- Both values are cut out of the same word.
  apply apart
  rw [← accepted, ← accepted', UInt32.and_assoc, UInt32.and_assoc, UInt32.and_comm one.mask]

theorem ops_distinct : ∀ one ∈ patterns, ∀ other ∈ patterns, one.op = other.op → one = other := by
  decide +kernel

theorem op_ne_unknown : ∀ pattern ∈ patterns, pattern.op ≠ .unknown := by decide

/-! ## Kinds and patterns -/

theorem find?_of_accepts {pattern : Pattern} (listed : pattern ∈ patterns) {word : Int32}
    (accepted : pattern.accepts word = true) :
    patterns.find? (·.accepts word) = some pattern := by
  obtain ⟨before, behind, table⟩ := List.append_of_mem listed
  have apart := patterns_apart
  rw [table, List.pairwise_append] at apart
  rw [List.find?_eq_some_iff_append]
  refine ⟨accepted, before, behind, table, fun earlier inBefore => ?_⟩
  simpa using (apart.2.2 earlier inBefore pattern List.mem_cons_self).not_accepts accepted

theorem classify_of_find? {word : Int32} {pattern : Pattern}
    (found : patterns.find? (·.accepts word) = some pattern) : classify word = pattern.op := by
  rw [classify, classifyBy, found]

/-- A word is of a listed kind exactly when it matches the pattern of that kind. -/
theorem classify_eq_op_iff {pattern : Pattern} (listed : pattern ∈ patterns) (word : Int32) :
    classify word = pattern.op ↔ pattern.accepts word = true := by
  constructor
  · intro same
    cases found : patterns.find? (·.accepts word) with
    | none =>
      rw [classify, classifyBy, found] at same
      exact absurd same.symm (op_ne_unknown pattern listed)
    | some other =>
      have otherListed := List.mem_of_find?_eq_some found
      rw [classify_of_find? found] at same
      obtain rfl := ops_distinct other otherListed pattern listed same
      have accepted := List.find?_some found
      exact accepted
  · intro accepted
    exact classify_of_find? (find?_of_accepts listed accepted)

/-- The kind of a word that has the digits of a pattern. -/
theorem classify_of_digits (pattern : Pattern) (listed : pattern ∈ patterns) {word : Int32}
    (digits : word.toUInt32 &&& pattern.mask = pattern.value) : classify word = pattern.op :=
  (classify_eq_op_iff listed word).mpr (beq_iff_eq.mpr digits)

/-- A word is of no listed kind exactly when it matches no pattern. -/
theorem classify_eq_unknown_iff (word : Int32) :
    classify word = .unknown ↔ ∀ pattern ∈ patterns, pattern.accepts word = false := by
  cases found : patterns.find? (·.accepts word) with
  | none =>
    rw [classify, classifyBy, found]
    simpa using found
  | some pattern =>
    have listed := List.mem_of_find?_eq_some found
    have accepted := List.find?_some found
    rw [classify_of_find? found]
    constructor
    · intro unknown
      exact absurd unknown (op_ne_unknown pattern listed)
    · intro refused
      exact absurd accepted (by simp [refused pattern listed])

/-! ## Fetched words -/

theorem accepts_toInt32_iff {pattern : Pattern} (narrowMask : pattern.mask < 0x10000)
    (narrowValue : pattern.value < 0x10000) (word : UInt16) :
    pattern.accepts word.toUInt32.toInt32 = true ↔
      word &&& pattern.mask.toUInt16 = pattern.value.toUInt16 := by
  have maskSmall : pattern.mask.toNat % 0x10000 = pattern.mask.toNat :=
    Nat.mod_eq_of_lt (UInt32.lt_iff_toNat_lt.mp narrowMask)
  have valueSmall : pattern.value.toNat % 0x10000 = pattern.value.toNat :=
    Nat.mod_eq_of_lt (UInt32.lt_iff_toNat_lt.mp narrowValue)
  simp [Pattern.accepts, ← UInt32.toNat_inj, ← UInt16.toNat_inj, maskSmall, valueSmall]

theorem patterns_narrow :
    ∀ pattern ∈ patterns, pattern.mask < 0x10000 ∧ pattern.value < 0x10000 := by
  decide

/-- The kind of the instruction that a fetched word stands for. -/
theorem op_ofWord_iff (pattern : Pattern) (listed : pattern ∈ patterns) (word : UInt16) :
    (Instruction.ofWord word).op = pattern.op ↔
      word &&& pattern.mask.toUInt16 = pattern.value.toUInt16 := by
  have narrow := patterns_narrow pattern listed
  rw [Instruction.ofWord, Instruction.op_decode, classify_eq_op_iff listed,
    accepts_toInt32_iff narrow.1 narrow.2]

/-! ## Operands -/

/-- The address that an instruction carries, if it carries one. -/
def Instruction.address? : Instruction → Option UInt16
  | .jump address | .call address | .setIndex address | .jumpOffset address => some address
  | _ => none

theorem address_decode_le {word : Int32} {address : UInt16}
    (carried : (Instruction.decode word).address? = some address) : address.toNat ≤ 0xFFF := by
  unfold Instruction.decode at carried
  split at carried <;> simp only [Instruction.address?, reduceCtorEq, Option.some.injEq] at carried
  all_goals
    subst carried
    simp only [Word.nnn, UInt16.toNat_ofNat']
    omega

theorem toNat_x (word : UInt16) : (Word.x word.toUInt32.toInt32).val = word.toNat / 0x100 % 16 := by
  simp [Word.x, Word.unsigned, Fin.ofNat]

theorem toNat_secondDigit (word : UInt16) :
    ((word >>> 8) &&& 0xF).toNat = word.toNat / 0x100 % 16 := by
  simp only [UInt16.toNat_and, UInt16.toNat_shiftRight, UInt16.reduceToNat, Nat.reduceMod,
    Nat.shiftRight_eq_div_pow]
  exact Nat.and_two_pow_sub_one_eq_mod _ 4

/-- A word for a wait names its register by the second digit. -/
theorem ofWord_eq_awaitKey {word : UInt16} {x : Fin 16}
    (read : Instruction.ofWord word = .awaitKey x) :
    word &&& 0xF0FF = 0xF00A ∧ (UInt8.ofNat x).toUInt16 = (word >>> 8) &&& 0xF := by
  have kind : classify word.toUInt32.toInt32 = .awaitKey := by
    rw [← Instruction.op_decode]
    exact congrArg Instruction.op read
  have operand : Instruction.ofWord word = .awaitKey (Word.x word.toUInt32.toInt32) := by
    rw [Instruction.ofWord, Instruction.decode, kind]
  obtain rfl : x = Word.x word.toUInt32.toInt32 :=
    Instruction.awaitKey.inj (read.symm.trans operand)
  constructor
  · exact (op_ofWord_iff ⟨0xF0FF, 0xF00A, .awaitKey⟩ (by decide) word).mp (congrArg _ read)
  · rw [← UInt16.toNat_inj, toNat_secondDigit, ← toNat_x, UInt8.toNat_toUInt16, UInt8.toNat_ofNat']
    exact Nat.mod_eq_of_lt (by omega)

end Chip8
