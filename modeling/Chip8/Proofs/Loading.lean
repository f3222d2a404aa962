import Chip8.Proofs.Step
import Chip8.Proofs.Writes
import Chip8.Program

/-!
# Programs in memory

A load copies a program to the program area, byte by byte, and changes nothing else. An image of words
has the higher byte of each word first. A fetch joins two bytes in the same order, so that it reads
the words of an image that is in memory, the last of them at `0xFFE`.

Results:
1. `load_of_fits`, `load_eq_error_iff`: what a load does, and when it is refused.
2. `Memory.write_write`, `load_load`: a second program over a first one.
3. `Program.getElem?_ofWords`, `fetch_of_holds`: a word of an image, and the fetch that reads it.
4. `words_loaded_fetched`: the laws together.
-/

namespace Chip8

/-! ## Images of words -/

/-- The image of words, the higher byte of each word first. -/
def Program.ofWords (words : List UInt16) : Program :=
  (words.flatMap fun word : UInt16 => [(word >>> 8).toUInt8, word.toUInt8]).toArray

namespace Program

theorem size_ofWords (words : List UInt16) : (ofWords words).size = 2 * words.length := by
  simp only [ofWords, List.size_toArray, List.length_flatMap, List.length_cons, List.length_nil,
    List.map_const', List.sum_replicate_nat, Nat.mul_comm]

/-- The two bytes of a word are side by side in the image. -/
theorem getElem?_ofWords {words : List UInt16} {place : Nat} {word : UInt16}
    (listed : words[place]? = some word) :
    (ofWords words)[2 * place]? = some (word >>> 8).toUInt8 ∧
      (ofWords words)[2 * place + 1]? = some word.toUInt8 := by
  unfold ofWords
  rw [List.getElem?_toArray, List.getElem?_toArray]
  induction words generalizing place with
  | nil => simp at listed
  | cons first rest ih =>
    cases place with
    | zero =>
      obtain rfl : first = word := Option.some.inj listed
      exact ⟨rfl, rfl⟩
    | succ place =>
      rw [List.getElem?_cons_succ] at listed
      exact ih listed

/-- A word is its two bytes joined. -/
theorem join_bytes (word : UInt16) :
    UInt16.ofNat (0x100 * (word >>> 8).toUInt8.toNat + word.toUInt8.toNat) = word := by
  have bound := word.toNat_lt
  rw [← UInt16.toNat_inj]
  simp only [UInt16.toNat_ofNat', UInt16.toNat_toUInt8, UInt16.toNat_shiftRight,
    UInt16.reduceToNat, Nat.shiftRight_eq_div_pow, Nat.reduceMod, Nat.reducePow]
  omega

end Program

/-! ## Loads -/

theorem Memory.write_write (memory : Memory) (address : Nat) (first second : List UInt8) :
    (memory.write address first).write address second =
      memory.write address (second ++ first.drop second.length) := by
  refine cells_ext fun place => ?_
  rw [cellAt_write, cellAt_write, cellAt_write]
  by_cases reached : address ≤ place.val
  · rw [if_pos reached, if_pos reached, if_pos reached]
    by_cases covered : place.val - address < second.length
    · rw [List.getElem?_append_left covered, List.getElem?_eq_getElem covered, Option.getD_some,
        Option.getD_some]
    · have behind := Nat.not_lt.mp covered
      rw [List.getElem?_append_right behind, List.getElem?_drop, Nat.add_sub_of_le behind,
        List.getElem?_eq_none behind, Option.getD_none]
  · rw [if_neg reached, if_neg reached, if_neg reached]

namespace State

/-- The program lies in the program area, byte by byte. -/
def Holds (state : State) (program : Program) : Prop :=
  ∀ place < program.size, state.memory[programStart + place]? = program[place]?

variable {state : State} {program : Program}

theorem load_of_fits (fits : program.size ≤ 3584) (state : State) :
    state.load program =
      .ok { state with memory := state.memory.write programStart program.toList } :=
  if_neg (Nat.not_lt.mpr fits)

theorem load_eq_error_iff :
    state.load program = .error (.oversizedProgram program.size 3584) ↔ 3584 < program.size := by
  refine ⟨fun refused => Nat.lt_of_not_le fun fits => ?_, fun oversized => if_pos oversized⟩
  rw [load_of_fits fits] at refused
  cases refused

theorem holds_of_loaded (fits : program.size ≤ 3584) :
    { state with memory := state.memory.write programStart program.toList }.Holds program := by
  intro place counts
  have inside : programStart + place < 4096 := by
    rw [programStart]
    omega
  have written := cellAt_write state.memory programStart program.toList ⟨_, inside⟩
  rw [if_pos (Nat.le_add_right _ _), Nat.add_sub_cancel_left] at written
  rw [Vector.getElem?_eq_getElem inside]
  simpa [cellAt, counts] using written

/-- A second program leaves of a first one what is behind its own end. -/
theorem load_load {first second : Program} (fits : first.size ≤ 3584) (state : State) :
    (state.load first >>= fun loaded => loaded.load second) =
      state.load (second ++ first.extract second.size) := by
  have size : (second ++ first.extract second.size).size = max second.size first.size := by
    rw [Array.size_append, Array.size_extract]
    omega
  rw [load_of_fits fits]
  by_cases fitsToo : second.size ≤ 3584
  · rw [load_of_fits (by omega)]
    refine (load_of_fits fitsToo _).trans ?_
    have behind : (first.extract second.size).toList = first.toList.drop second.size := by
      rw [Array.toList_extract, List.extract_eq_take_drop]
      exact List.take_of_length_le (by simp)
    rw [Memory.write_write, Array.toList_append, behind, Array.length_toList]
  · -- Only the second one can be too large, and then nothing of the first is behind its end.
    have oversized := Nat.not_le.mp fitsToo
    have whole : (second ++ first.extract second.size).size = second.size := by omega
    have refused : state.load (second ++ first.extract second.size) =
        .error (.oversizedProgram second.size 3584) := by
      rw [← whole] at oversized
      rw [load_eq_error_iff.mpr oversized, whole]
    exact (load_eq_error_iff.mpr oversized).trans refused.symm

/-! ## Fetches -/

/-- A fetch in memory yields the word, notes it and moves past it. -/
theorem fetch_of_inMemory (inMemory : state.pc.toNat ≤ 0xFFE) :
    state.fetch = ⟨{ state with pc := state.pc + 2, opcode := state.word }, state.word⟩ := by
  have passed : ¬ 0xFFF < state.pc + 1 := by
    simp only [UInt16.lt_iff_toNat_lt, UInt16.toNat_add, UInt16.reduceToNat]
    omega
  refine Fetched.ext ?_ (fetchedWord_eq _ _ inMemory)
  rw [fetch, fetchWith_state, fetchedWord_eq _ _ inMemory]
  simp only [passed, false_and, if_false]

/-- The word at an address where an image of words is in memory. -/
theorem word_of_holds {words : List UInt16} (holds : state.Holds (.ofWords words)) {place : Nat}
    {word : UInt16} (listed : words[place]? = some word)
    (here : state.pc.toNat = programStart + 2 * place) :
    state.pc.toNat ≤ 0xFFE ∧ state.word = word := by
  obtain ⟨high, low⟩ := Program.getElem?_ofWords listed
  have counts : place < words.length := (List.getElem?_eq_some_iff.mp listed).1
  have first := holds (2 * place) (by rw [Program.size_ofWords]; omega)
  have second := holds (2 * place + 1) (by rw [Program.size_ofWords]; omega)
  rw [high, ← here] at first
  rw [low, ← Nat.add_assoc, ← here] at second
  have inside : state.pc.toNat + 1 < 4096 := (Vector.getElem?_eq_some_iff.mp second).1
  refine ⟨by omega, ?_⟩
  rw [State.word, byteAt, byteAt, first, second, Option.getD_some, Option.getD_some,
    Program.join_bytes]

end State

/-- What is loaded is what is fetched. A program is refused if it is longer than the program area, and
only then; otherwise its bytes are in memory from `0x200` on, and no other byte and no other field of
the state is another one. A second program leaves of the first what is behind its own end, also if it
is refused itself. A fetch at the address of a word of an image that is in memory yields this word,
notes it, moves past it and changes nothing else, so that it records no fault. -/
theorem words_loaded_fetched :
    (∀ (state : State) (program : Program),
      (state.load program = .error (.oversizedProgram program.size 3584) ↔
        3584 < program.size) ∧
      (program.size ≤ 3584 → ∃ loaded, state.load program = .ok loaded ∧
        loaded = { state with memory := loaded.memory } ∧
        loaded.Holds program ∧
        ∀ place : Fin 4096, place.val < 0x200 ∨ 0x200 + program.size ≤ place.val →
          cellAt loaded.memory place = cellAt state.memory place)) ∧
    (∀ (state : State) (first second : Program), first.size ≤ 3584 →
      (state.load first >>= fun loaded => loaded.load second) =
        state.load (second ++ first.extract second.size)) ∧
    (∀ (state : State) (words : List UInt16) (place : Nat) (word : UInt16),
      state.Holds (.ofWords words) → words[place]? = some word →
      state.pc.toNat = 0x200 + 2 * place →
      state.fetch = ⟨{ state with pc := state.pc + 2, opcode := word }, word⟩ ∧
        state.fetch.state.pc.toNat = state.pc.toNat + 2) := by
  refine ⟨fun state program => ⟨State.load_eq_error_iff, fun fits => ?_⟩,
    fun state first second fits => State.load_load fits state,
    fun state words place word holds listed here => ?_⟩
  · refine ⟨_, State.load_of_fits fits state, rfl, State.holds_of_loaded fits, ?_⟩
    intro place outside
    exact cellAt_write_of_outside (by simpa [programStart] using outside)
  · obtain ⟨inMemory, read⟩ := State.word_of_holds holds listed here
    have fetched := State.fetch_of_inMemory inMemory
    rw [fetched, read]
    exact ⟨rfl, State.toNat_add_of_lt (show _ + 2 < _ by omega)⟩

/-- An image of as many words as the program area takes, the last of them unlike the others. -/
def fullImage : List UInt16 :=
  List.replicate 1791 0x00E0 ++ [0xF165]

/-- The last word is fetched from the last two bytes of memory, and a byte more is refused. A program
of one byte changes the first byte of the image only. -/
theorem words_loaded_fetched_full :
    let state := State.initial ⟨0, 0⟩
    let program := Program.ofWords fullImage
    program.size = 3584 ∧
    state.load (program.push 0) = .error (.oversizedProgram 3585 3584) ∧
    (state.load program >>= fun loaded => loaded.load #[0x12]) =
      state.load (#[0x12] ++ program.extract 1) ∧
    ∃ loaded, state.load program = .ok loaded ∧
      cellAt loaded.memory 0x1FF = cellAt state.memory 0x1FF ∧
      fullImage[1791]? = some 0xF165 ∧
      { loaded with pc := 0xFFE }.fetch =
        ⟨{ loaded with pc := 0x1000, opcode := 0xF165 }, 0xF165⟩ := by
  intro state program
  obtain ⟨loads, twice, fetches⟩ := words_loaded_fetched
  have length : fullImage.length = 1792 := by
    rw [fullImage, List.length_append, List.length_replicate, List.length_singleton]
  have size : program.size = 3584 := by rw [Program.size_ofWords, length]
  have longer : (program.push 0).size = 3585 := by rw [Array.size_push, size]
  have refused := (loads state (program.push 0)).1.mpr (by rw [longer]; decide)
  rw [longer] at refused
  obtain ⟨loaded, result, -, holds, outside⟩ := (loads state program).2 (Nat.le_of_eq size)
  have listed : fullImage[1791]? = some 0xF165 := by decide +kernel
  have fetched := (fetches { loaded with pc := 0xFFE } fullImage 1791 0xF165 holds listed rfl).1
  exact ⟨size, refused, twice state program #[0x12] (Nat.le_of_eq size), loaded, result,
    outside 0x1FF (.inl (by decide)), listed, fetched⟩

end Chip8
