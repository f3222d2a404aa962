import Chip8.Proofs.Drawing
import Chip8.Proofs.Writes
import Mathlib.Algebra.BigOperators.Group.Finset.Basic

/-!
# Drawing twice, and in any order

A sprite in a place toggles a set of cells that memory and the place fix, whatever the display
shows. Drawing it twice therefore restores the display, two drawings may change places, and of a
sequence of drawings the display remembers only which places were drawn an odd number of times.

Results:
1. `stroke_fault_iff`, `cellAt_stroke`, `register_flag_stroke`: when a drawing is kept, the cells
   that it toggles, and its collision.
2. `stroke_stroke_display`, `flag_of_second_stroke`: the same drawing twice.
3. `strokes_fault_iff`, `cellAt_strokes`: a sequence of drawings, by the number of those that cover a
   cell.
4. `countP_mod_two_congr`: what is counted modulo two depends on the parities alone.
5. `strokes_display_congr`, `strokes_toggle_by_parity`: what the display remembers, and the laws
   together.
-/

namespace Chip8

/-! ## Places and strokes -/

/-- Where a sprite is drawn: its first byte, the number of its rows, and the column and row of its
first bit. -/
structure Placement where
  start : UInt16
  height : Fin 16
  left : UInt8
  top : UInt8
deriving DecidableEq, Repr

namespace Placement

/-- The cell lies under a set bit of the sprite that memory holds. -/
def Covers (placement : Placement) (memory : Memory) (cell : Nat) : Prop :=
  ∃ row < placement.height.val, ∃ column < 8,
    (memory[placement.start.toNat + row]?.getD 0).toNat.testBit (7 - column) = true ∧
      placement.left.toNat + column + (placement.top.toNat + row) * 64 = cell

instance (placement : Placement) (memory : Memory) (cell : Nat) :
    Decidable (placement.Covers memory cell) :=
  inferInstanceAs (Decidable (∃ row < placement.height.val, ∃ column < 8, _ ∧ _))

/-- The rows of the sprite are in memory and its set bits on the screen. -/
def Fits (placement : Placement) (memory : Memory) : Prop :=
  (∀ row < placement.height.val, placement.start.toNat + row ≤ 0xFFF) ∧
    ∀ cell, placement.Covers memory cell → cell < 2048

end Placement

/-- A word that draws, with the index and the numbers in `VX` and `VY` that are set before it.
Neither of them is `VF`, and if they are one register they hold one number. -/
structure Stroke where
  word : Int32
  start : UInt16
  left : UInt8
  top : UInt8
  draws : word.toUInt32 &&& 0xF000 = 0xD000
  xKept : Word.x word ≠ Registers.flag
  yKept : Word.y word ≠ Registers.flag
  agree : Word.x word = Word.y word → left = top

namespace Stroke

def placement (stroke : Stroke) : Placement :=
  ⟨stroke.start, Word.n stroke.word, stroke.left, stroke.top⟩

def instruction (stroke : Stroke) : Instruction :=
  .draw (Word.x stroke.word) (Word.y stroke.word) (Word.n stroke.word)

end Stroke

namespace State

/-- The state with the index and the two registers set. -/
def aimed (state : State) (stroke : Stroke) : State :=
  { (state.setRegister (Word.x stroke.word) stroke.left).setRegister (Word.y stroke.word)
      stroke.top with
    index := stroke.start }

/-- Draws from the index and the registers of the stroke. -/
def stroke (state : State) (stroke : Stroke) : State :=
  (state.aimed stroke).execute stroke.word

def strokes (state : State) (list : List Stroke) : State :=
  list.foldl stroke state

variable {state : State} {stroke : Stroke}

/-! ## One drawing -/

theorem register_aimed (state : State) (stroke : Stroke) (x : Fin 16) :
    (state.aimed stroke).register x =
      if Word.y stroke.word = x then stroke.top
      else if Word.x stroke.word = x then stroke.left else state.register x := by
  rw [← register_setRegister, ← register_setRegister]
  rfl

theorem register_aimed_x : (state.aimed stroke).register (Word.x stroke.word) = stroke.left := by
  rw [register_aimed, if_pos rfl]
  split
  · next same => exact (stroke.agree same.symm).symm
  · rfl

theorem register_aimed_y : (state.aimed stroke).register (Word.y stroke.word) = stroke.top := by
  rw [register_aimed, if_pos rfl]

theorem covers_aimed_iff (cell : Nat) :
    (state.aimed stroke).Covers (Word.x stroke.word) (Word.y stroke.word) (Word.n stroke.word) cell ↔
      stroke.placement.Covers state.memory cell := by
  unfold Covers bitCell
  rw [register_aimed_x, register_aimed_y]
  rfl

theorem stroke_eq :
    state.stroke stroke = (state.aimed stroke).performWith Edge.last stroke.instruction := by
  rw [State.stroke, execute, executeWith, decode_of_draw stroke.draws, Stroke.instruction]

/-- The checks of a drawing pass exactly if the sprite fits its place. -/
theorem passed_iff_fits :
    (state.aimed stroke).hazard? Edge.last stroke.instruction = none ↔
      stroke.placement.Fits state.memory := by
  rw [Stroke.instruction, hazard?_draw_eq_none_iff, Placement.Fits]
  refine and_congr_right fun inMemory => ?_
  rw [Sprite.isOffScreen_eq_any_cells, List.any_eq_false]
  refine forall_congr' fun cell => ?_
  rw [← covers_iff_mem_cells Edge.last inMemory, covers_aimed_iff, decide_eq_true_eq, Nat.not_le]

theorem stroke_fault :
    (state.stroke stroke).fault =
      if state.fault = Fault.healthy then
        Fault.codeOf ((state.aimed stroke).hazard? Edge.last stroke.instruction)
      else state.fault := by
  have kept : (state.aimed stroke).fault = state.fault := rfl
  rw [stroke_eq]
  split
  · next healthy => exact performWith_fault _ _ (kept.trans healthy) _
  · next faulty => exact performWith_fault_of_ne _ _ (kept ▸ faulty) _

/-- A drawing is kept on a healthy state if the sprite fits its place. -/
theorem stroke_fault_iff :
    (state.stroke stroke).fault = Fault.healthy ↔
      state.fault = Fault.healthy ∧ stroke.placement.Fits state.memory := by
  rw [stroke_fault, ← passed_iff_fits, ← Fault.codeOf_eq_healthy_iff]
  split
  · next healthy => rw [and_iff_right healthy]
  · next faulty => exact iff_of_false faulty fun both => faulty both.1

/-- The display has no part in the fault of a drawing. -/
theorem stroke_fault_withDisplay (display : Display) :
    ({ state with display := display }.stroke stroke).fault = (state.stroke stroke).fault := by
  rw [stroke_fault, stroke_fault]
  rfl

theorem stroke_memory : (state.stroke stroke).memory = state.memory := by
  rw [stroke_eq]
  exact performWith_memory Edge.last (state.aimed stroke) (.draw ..)

/-- A drawing that is kept toggles the cells that it covers. -/
theorem cellAt_stroke (fits : stroke.placement.Fits state.memory) (place : Fin 2048) :
    cellAt (state.stroke stroke).display place =
      (cellAt state.display place ^^ decide (stroke.placement.Covers state.memory place)) := by
  have drawn := cellAt_draw_of_passed (passed_iff_fits.mpr fits) place
  simp only [covers_aimed_iff] at drawn
  rw [stroke_eq]
  exact drawn

/-- The collision of a drawing that is kept. -/
theorem register_flag_stroke (fits : stroke.placement.Fits state.memory) :
    (state.stroke stroke).register Registers.flag =
      if ∃ place : Fin 2048, stroke.placement.Covers state.memory place ∧
        cellAt state.display place = true then 1 else 0 := by
  have collided := registers_draw_of_passed (passed_iff_fits.mpr fits)
  simp only [covers_aimed_iff] at collided
  rw [stroke_eq, Stroke.instruction, performWith, register, collided, cellAt_putCell, if_pos rfl]
  rfl

/-! ## The same drawing twice -/

theorem aimed_of_set (left : state.register (Word.x stroke.word) = stroke.left)
    (top : state.register (Word.y stroke.word) = stroke.top) (start : state.index = stroke.start) :
    state.aimed stroke = state := by
  rw [aimed, ← left, setRegister_register, ← top, setRegister_register, ← start]

theorem register_stroke {place : Fin 16} (kept : place ≠ Registers.flag) :
    (state.stroke stroke).register place = (state.aimed stroke).register place := by
  have unwritten : ¬ stroke.instruction.Writes place := kept
  rw [stroke_eq]
  exact register_performWith_of_not_writes Edge.last _ unwritten

/-- A drawing writes neither its index nor its registers, so that the word draws the same again. -/
theorem execute_stroke :
    (state.stroke stroke).execute stroke.word = (state.stroke stroke).stroke stroke := by
  have left : (state.stroke stroke).register _ = _ :=
    (register_stroke stroke.xKept).trans register_aimed_x
  have top : (state.stroke stroke).register _ = _ :=
    (register_stroke stroke.yKept).trans register_aimed_y
  have start : (state.stroke stroke).index = stroke.start := by
    rw [stroke_eq]
    exact performWith_index Edge.last (state.aimed stroke) (.draw ..)
  exact congrArg (·.execute stroke.word) (aimed_of_set left top start).symm

theorem stroke_stroke_fits (fits : stroke.placement.Fits state.memory) :
    stroke.placement.Fits (state.stroke stroke).memory := by
  rwa [stroke_memory]

theorem stroke_stroke_display (fits : stroke.placement.Fits state.memory) :
    ((state.stroke stroke).stroke stroke).display = state.display := by
  refine cells_ext fun place => ?_
  rw [cellAt_stroke (stroke_stroke_fits fits), stroke_memory, cellAt_stroke fits, Bool.xor_assoc,
    Bool.xor_self, Bool.xor_false]

/-- The second drawing meets the cells that were dark before the first. -/
theorem flag_of_second_stroke (fits : stroke.placement.Fits state.memory) :
    ((state.stroke stroke).stroke stroke).register Registers.flag =
      if ∃ place : Fin 2048, stroke.placement.Covers state.memory place ∧
        cellAt state.display place = false then 1 else 0 := by
  rw [register_flag_stroke (stroke_stroke_fits fits), stroke_memory]
  refine if_congr (exists_congr fun place => and_congr_right fun covered => ?_) rfl rfl
  rw [cellAt_stroke fits, decide_eq_true covered, Bool.xor_true, Bool.not_eq_true']

/-! ## Sequences of drawings -/

theorem strokes_fault_iff {list : List Stroke} :
    (state.strokes list).fault = Fault.healthy ↔
      state.fault = Fault.healthy ∧ ∀ stroke ∈ list, stroke.placement.Fits state.memory := by
  induction list generalizing state with
  | nil => simp [strokes]
  | cons first rest ih =>
    have step : state.strokes (first :: rest) = (state.stroke first).strokes rest := rfl
    rw [step, ih, stroke_fault_iff, stroke_memory, List.forall_mem_cons, and_assoc]

/-- A cell is toggled once by each drawing that covers it. -/
theorem cellAt_strokes {list : List Stroke}
    (fits : ∀ stroke ∈ list, stroke.placement.Fits state.memory) (place : Fin 2048) :
    cellAt (state.strokes list).display place =
      (cellAt state.display place ^^
        decide ((list.map Stroke.placement).countP (·.Covers state.memory place) % 2 = 1)) := by
  induction list generalizing state with
  | nil => simp [strokes]
  | cons first rest ih =>
    have step : state.strokes (first :: rest) = (state.stroke first).strokes rest := rfl
    rw [List.forall_mem_cons] at fits
    have fitsRest : ∀ stroke ∈ rest, stroke.placement.Fits (state.stroke first).memory := by
      rw [stroke_memory]
      exact fits.2
    rw [step, ih fitsRest, stroke_memory, cellAt_stroke fits.1, List.map_cons, List.countP_cons,
      Bool.xor_assoc]
    congr 1
    by_cases covered : first.placement.Covers state.memory place
    · rw [decide_eq_true covered, Bool.true_xor, ← decide_not, if_pos rfl]
      refine decide_eq_decide.mpr ?_
      omega
    · rw [decide_eq_false covered, Bool.false_xor, if_neg Bool.false_ne_true, Nat.add_zero]

end State

/-- What is counted modulo two depends on the parity alone with which each entry stands in the
list. -/
theorem countP_mod_two_congr {α : Type} [DecidableEq α] {counts : α → Bool} {one other : List α}
    (same : ∀ entry, one.count entry % 2 = other.count entry % 2) :
    one.countP counts % 2 = other.countP counts % 2 := by
  have total (list : List α) (inside : list ⊆ one ++ other) :
      list.countP counts =
        ∑ entry ∈ (one ++ other).toFinset with counts entry = true, list.count entry := by
    have counted := Finset.sum_filter_count_eq_countP (counts · = true) list
    simp only [Bool.decide_eq_true] at counted
    rw [← counted]
    have listed : list.toFinset ⊆ (one ++ other).toFinset := fun entry => by
      rw [List.mem_toFinset, List.mem_toFinset]
      exact fun member => inside member
    refine Finset.sum_subset (Finset.filter_subset_filter _ listed) fun entry among absent => ?_
    refine List.count_eq_zero.mpr fun member => absent ?_
    exact Finset.mem_filter.mpr ⟨List.mem_toFinset.mpr member, (Finset.mem_filter.mp among).2⟩
  rw [total one (List.subset_append_left _ _), total other (List.subset_append_right _ _),
    Finset.sum_nat_mod, Finset.sum_nat_mod _ _ other.count]
  simp only [same]

namespace State

variable {state : State}

/-- Of the drawings that are kept the display remembers the parities of their places. -/
theorem strokes_display_congr {start : State} {list other : List Stroke}
    (sameMemory : start.memory = state.memory) (sameDisplay : start.display = state.display)
    (fits : ∀ stroke ∈ list, stroke.placement.Fits state.memory)
    (fitsOther : ∀ stroke ∈ other, stroke.placement.Fits state.memory)
    (same : ∀ placement, (list.map Stroke.placement).count placement % 2 =
      (other.map Stroke.placement).count placement % 2) :
    (state.strokes list).display = (start.strokes other).display := by
  refine cells_ext fun place => ?_
  rw [← sameMemory] at fitsOther
  rw [cellAt_strokes fits, cellAt_strokes fitsOther, sameMemory, sameDisplay,
    countP_mod_two_congr same]

/-- Two drawings may change places. -/
theorem stroke_comm_display {one other : Stroke} (fits : one.placement.Fits state.memory)
    (fitsOther : other.placement.Fits state.memory) :
    ((state.stroke one).stroke other).display = ((state.stroke other).stroke one).display := by
  change (state.strokes [one, other]).display = (state.strokes [other, one]).display
  refine strokes_display_congr rfl rfl (by simp [fits, fitsOther]) (by simp [fits, fitsOther])
    fun placement => ?_
  rw [((List.Perm.swap other one []).map Stroke.placement).count_eq]

end State

/-- Drawing is an exclusive or. Whether a drawing faults is not for the display to say. Take drawings
that do not fault, each with its index and registers set before it. The same word once more draws
the same and gives back all cells, and its collision tells whether a cell under the sprite was dark
before. Two drawings give the same display in either order. After any sequence of drawings the
display is a matter of the parities with which the places of the sprites were drawn. -/
theorem strokes_toggle_by_parity (state : State) :
    (∀ (stroke : Stroke) (display : Display),
      ({ state with display := display }.stroke stroke).fault = (state.stroke stroke).fault) ∧
    (∀ stroke : Stroke, (state.stroke stroke).fault = Fault.healthy →
      let once := state.stroke stroke
      let twice := once.execute stroke.word
      twice = once.stroke stroke ∧ twice.fault = Fault.healthy ∧
      (∀ place, cellAt twice.display place = cellAt state.display place) ∧
      twice.register Registers.flag =
        if ∃ place : Fin 2048, stroke.placement.Covers state.memory place ∧
          cellAt state.display place = false then 1 else 0) ∧
    (∀ one other : Stroke, (state.stroke one).fault = Fault.healthy →
      (state.stroke other).fault = Fault.healthy →
      let forth := (state.stroke one).stroke other
      let back := (state.stroke other).stroke one
      forth.fault = Fault.healthy ∧ back.fault = Fault.healthy ∧ forth.display = back.display) ∧
    (∀ (start : State) (list other : List Stroke),
      start.memory = state.memory → start.display = state.display →
      (state.strokes list).fault = Fault.healthy → (start.strokes other).fault = Fault.healthy →
      (∀ placement, (list.map Stroke.placement).count placement % 2 =
        (other.map Stroke.placement).count placement % 2) →
      (state.strokes list).display = (start.strokes other).display) := by
  refine ⟨fun _ => State.stroke_fault_withDisplay, ?_, ?_, ?_⟩
  · intro stroke kept once twice
    obtain ⟨-, fits⟩ := State.stroke_fault_iff.mp kept
    have again : twice = once.stroke stroke := State.execute_stroke
    refine ⟨again, ?_, fun place => ?_, ?_⟩
    · exact again ▸ State.stroke_fault_iff.mpr ⟨kept, State.stroke_stroke_fits fits⟩
    · rw [again, State.stroke_stroke_display fits]
    · rw [again, State.flag_of_second_stroke fits]
  · intro one other kept keptOther forth back
    obtain ⟨-, fits⟩ := State.stroke_fault_iff.mp kept
    obtain ⟨-, fitsOther⟩ := State.stroke_fault_iff.mp keptOther
    refine ⟨State.stroke_fault_iff.mpr ⟨kept, ?_⟩, State.stroke_fault_iff.mpr ⟨keptOther, ?_⟩,
      State.stroke_comm_display fits fitsOther⟩
    · rwa [State.stroke_memory]
    · rwa [State.stroke_memory]
  · intro start list other sameMemory sameDisplay kept keptOther same
    obtain ⟨-, fits⟩ := State.strokes_fault_iff.mp kept
    obtain ⟨-, fitsOther⟩ := State.strokes_fault_iff.mp keptOther
    exact State.strokes_display_congr sameMemory sameDisplay fits (sameMemory ▸ fitsOther) same

/-- The glyph of zero across the right edge. -/
def Stroke.zeroAtEdge : Stroke :=
  ⟨0xD015, 0x000, 62, 3, by decide, by decide, by decide, by decide⟩

/-- The glyph of one over a part of it. -/
def Stroke.oneBeside : Stroke :=
  ⟨0xD235, 0x005, 61, 4, by decide, by decide, by decide, by decide⟩

/-- The glyphs overlap on a cleared display, on which the second drawing of either collides. -/
theorem strokes_toggle_by_parity_overlapping :
    let state := State.initial ⟨0, 0⟩
    let one := Stroke.zeroAtEdge
    let other := Stroke.oneBeside
    (state.stroke one).fault = Fault.healthy ∧ (state.stroke other).fault = Fault.healthy ∧
    (∃ place : Fin 2048, one.placement.Covers state.memory place ∧
      other.placement.Covers state.memory place) ∧
    ((state.stroke one).execute 0xD015).register Registers.flag = 1 ∧
    ((state.stroke one).stroke other).display = ((state.stroke other).stroke one).display ∧
    (state.strokes [one, other, one]).display = (state.strokes [other]).display := by
  intro state one other
  obtain ⟨kept, keptOther, keptThree, keptOne, covered, shared, dark⟩ :
      (state.stroke one).fault = Fault.healthy ∧ (state.stroke other).fault = Fault.healthy ∧
      (state.strokes [one, other, one]).fault = Fault.healthy ∧
      (state.strokes [other]).fault = Fault.healthy ∧
      one.placement.Covers state.memory (382 : Fin 2048) ∧
      other.placement.Covers state.memory (382 : Fin 2048) ∧
      cellAt state.display 382 = false := by
    decide +kernel
  obtain ⟨-, again, swap, parity⟩ := strokes_toggle_by_parity state
  obtain ⟨-, -, -, collided⟩ := again one kept
  rw [if_pos ⟨382, covered, dark⟩] at collided
  obtain ⟨-, -, commuted⟩ := swap one other kept keptOther
  refine ⟨kept, keptOther, ⟨382, covered, shared⟩, collided, commuted,
    parity state _ _ rfl rfl keptThree keptOne fun placement => ?_⟩
  simp only [List.map_cons, List.map_nil, List.count_cons, List.count_nil]
  omega

end Chip8
