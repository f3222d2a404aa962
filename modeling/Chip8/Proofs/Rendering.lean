import Chip8.Proofs.Picture
import Mathlib.Algebra.BigOperators.Ring.List
import Mathlib.Algebra.Ring.Nat

/-!
# Pictures of cells in groups

Cells that form a block are rendered in the order in which they stand in it, however they are grouped.
Every cell becomes a square of pixels, from whose corner it can be read back, so that a picture holds
all that the block says and nothing else.

Results:
1. `CellTree.length_lit_of_block`: how many cells a block has.
2. `CellTree.cells_of_block`, `CellTree.cells_of_deep`: the cells of a block, and the blocks that have
   too many dimensions.
3. `renderTree_of_cells`, `renderTree_of_count`: when a picture is made and when it is refused.
4. `Picture.sample_of_depicts`, `Picture.pixel?_of_depicts`: the cells that a picture shows, and the
   same picture at scale one.
5. `block_rendered`: the laws together.
-/

namespace Chip8

namespace CellTree

/-! ## Blocks -/

/-- The groups of every level have one size. The sizes are given from the outermost level on, and below
the last of these levels there are cells only. -/
inductive Block : List Nat → CellTree → Prop
  | cell (value : CellValue) : Block [] (.cell value)
  | group {sizes : List Nat} {parts : List CellTree} (alike : ∀ part ∈ parts, Block sizes part) :
    Block (parts.length :: sizes) (.group parts)

theorem length_litAll {parts : List CellTree} {count : Nat}
    (same : ∀ part ∈ parts, part.lit.length = count) :
    (litAll parts).length = parts.length * count := by
  induction parts with
  | nil => simp [litAll]
  | cons part rest ih =>
    rw [List.forall_mem_cons] at same
    rw [litAll, List.length_append, same.1, ih same.2, List.length_cons, Nat.succ_mul, Nat.add_comm]

theorem length_lit_of_block {sizes : List Nat} {tree : CellTree} (block : Block sizes tree) :
    tree.lit.length = sizes.prod := by
  induction block with
  | cell value => simp [lit]
  | group alike ih => rw [lit, length_litAll ih, List.prod_cons]

section

variable {size : Nat} {sizes : List Nat} {trees : List CellTree}

theorem isCell_of_block {tree : CellTree} (block : Block [] tree) : tree.isCell = true := by
  cases block
  rfl

theorem isCell_of_group {tree : CellTree} (block : Block (size :: sizes) tree) :
    tree.isCell = false := by
  cases block
  rfl

theorem size?_of_block {tree : CellTree} (block : Block (size :: sizes) tree) :
    tree.size? = some size ∧ ∀ part ∈ tree.parts, Block sizes part := by
  cases block with
  | group alike => exact ⟨rfl, alike⟩

theorem commonSize?_of_cells (blocks : ∀ tree ∈ trees, Block [] tree) : commonSize? trees = none := by
  cases trees with
  | nil => rfl
  | cons first rest =>
    cases blocks first List.mem_cons_self
    exact ite_self none

theorem commonSize?_of_blocks (blocks : ∀ tree ∈ trees, Block (size :: sizes) tree)
    (some : trees ≠ []) : commonSize? trees = .some size := by
  cases trees with
  | nil => exact absurd rfl some
  | cons first rest =>
    have same : ∀ tree ∈ first :: rest, tree.size? = .some size := fun tree member =>
      (size?_of_block (blocks tree member)).1
    have first := same first List.mem_cons_self
    rw [commonSize?, first, if_pos]
    rw [List.all_eq_true]
    intro tree member
    rw [same tree (List.mem_cons_of_mem _ member)]
    exact beq_self_eq_true _

theorem blocks_below (blocks : ∀ tree ∈ trees, Block (size :: sizes) tree) :
    ∀ part ∈ trees.flatMap parts, Block sizes part := by
  intro part below
  obtain ⟨tree, member, inside⟩ := List.mem_flatMap.mp below
  exact (size?_of_block (blocks tree member)).2 part inside

/-- Below the dimensions of blocks there are cells, if the dimensions are within the limit. -/
theorem below_of_blocks {limit : Nat} (blocks : ∀ tree ∈ trees, Block sizes tree)
    (shallow : sizes.length ≤ limit) : (dimensions limit trees).2.all isCell = true := by
  -- One level of the trees goes with one of the sizes, and uses up one of the limit.
  induction sizes generalizing trees limit with
  | nil =>
    have below : (dimensions limit trees).2 = trees := by
      cases limit with
      | zero => rfl
      | succ limit => rw [dimensions, commonSize?_of_cells blocks]
    rw [below, List.all_eq_true]
    exact fun tree member => isCell_of_block (blocks tree member)
  | cons size sizes ih =>
    obtain ⟨limit, rfl⟩ : ∃ less, limit = less + 1 := ⟨limit - 1, by simp at shallow; omega⟩
    cases trees with
    | nil => rfl
    | cons first rest =>
      rw [dimensions, commonSize?_of_blocks blocks (List.cons_ne_nil _ _)]
      exact ih (blocks_below blocks) (Nat.le_of_succ_le_succ shallow)

/-- Blocks with more dimensions than the limit have groups below, unless a group is empty. -/
theorem below_of_deep {limit : Nat} (blocks : ∀ tree ∈ trees, Block sizes tree) (some : trees ≠ [])
    (filled : 0 ∉ sizes) (deep : limit < sizes.length) :
    (dimensions limit trees).1.length = limit ∧ (dimensions limit trees).2.all isCell = false := by
  induction limit generalizing trees sizes with
  | zero =>
    cases sizes with
    | nil => cases deep
    | cons size sizes =>
      obtain ⟨first, rest, rfl⟩ := List.exists_cons_of_ne_nil some
      refine ⟨rfl, ?_⟩
      rw [dimensions, List.all_cons, isCell_of_group (blocks first List.mem_cons_self),
        Bool.false_and]
  | succ limit ih =>
    cases sizes with
    | nil => cases deep
    | cons size sizes =>
      rw [List.mem_cons, not_or] at filled
      -- Without a tree on some level the dimensions would stop there.
      have someBelow : trees.flatMap parts ≠ [] := by
        obtain ⟨first, rest, rfl⟩ := List.exists_cons_of_ne_nil some
        cases blocks first List.mem_cons_self with
        | @group _ members alike =>
          intro none
          rw [List.flatMap_cons, List.append_eq_nil_iff] at none
          exact filled.1 (List.length_eq_zero_iff.mpr none.1).symm
      obtain ⟨length, below⟩ :=
        ih (blocks_below blocks) someBelow filled.2 (Nat.lt_of_succ_lt_succ deep)
      rw [dimensions, commonSize?_of_blocks blocks some]
      exact ⟨congrArg (· + 1) length, below⟩

end

/-- Cells that are not refused come in order. -/
theorem cells_eq (tree : CellTree) :
    tree.cells = .ok tree.lit ∨ ∃ why, tree.cells = .error why := by
  unfold cells
  simp only
  split
  · exact .inl rfl
  · split
    · exact .inr ⟨_, rfl⟩
    · exact .inr ⟨_, rfl⟩

theorem cells_of_block {sizes : List Nat} {tree : CellTree} (block : Block sizes tree)
    (shallow : sizes.length ≤ 64) : tree.cells = .ok tree.lit := by
  have blocks : ∀ part ∈ [tree], Block sizes part := by simpa using block
  exact if_pos (below_of_blocks blocks shallow)

theorem cells_of_deep {sizes : List Nat} {tree : CellTree} (block : Block sizes tree)
    (deep : 64 < sizes.length) (filled : tree.lit ≠ []) : tree.cells = .error .tooDeep := by
  have noneEmpty : 0 ∉ sizes := by
    intro empty
    have none : tree.lit.length = 0 :=
      (length_lit_of_block block).trans (List.prod_eq_zero_iff.mpr empty)
    exact filled (List.length_eq_zero_iff.mp none)
  have blocks : ∀ part ∈ [tree], Block sizes part := by simpa using block
  obtain ⟨length, below⟩ := below_of_deep blocks (List.cons_ne_nil _ _) noneEmpty deep
  refine (if_neg (Bool.eq_false_iff.mp below)).trans (if_pos length)

/-! ### Rows of cells and what encloses them -/

/-- Cells side by side. -/
def row (values : List CellValue) : CellTree := .group (values.map .cell)

theorem block_row (values : List CellValue) : Block [values.length] (row values) := by
  have alike : ∀ part ∈ values.map CellTree.cell, Block [] part := by
    intro part member
    obtain ⟨value, -, rfl⟩ := List.mem_map.mp member
    exact .cell value
  have block := Block.group alike
  rwa [List.length_map] at block

theorem block_repeat {sizes : List Nat} {tree : CellTree} (block : Block sizes tree) (count : Nat) :
    Block (count :: sizes) (.group (List.replicate count tree)) := by
  have alike : ∀ part ∈ List.replicate count tree, Block sizes part := fun part member =>
    List.eq_of_mem_replicate member ▸ block
  have grouped := Block.group alike
  rwa [List.length_replicate] at grouped

/-- A tree in groups of one member each. -/
def nested : Nat → CellTree → CellTree
  | 0, tree => tree
  | depth + 1, tree => .group [nested depth tree]

theorem block_nested {sizes : List Nat} {tree : CellTree} (block : Block sizes tree) (depth : Nat) :
    Block (List.replicate depth 1 ++ sizes) (nested depth tree) := by
  induction depth with
  | zero => exact block
  | succ depth ih =>
    rw [List.replicate_succ, List.cons_append]
    exact block_repeat ih 1

end CellTree

/-! ## Cells read back -/

/-- Colours with the same numbers are the same. -/
theorem Colour.tint_injective : Function.Injective Colour.tint := by
  intro ⟨red, green, blue⟩ ⟨red', green', blue'⟩ same
  simp only [tint, Tint.mk.injEq, Int.natCast_inj, UInt8.toNat_inj] at same
  rw [same.1, same.2.1, same.2.2]

namespace Picture

/-- The cells that a picture shows, read off the top left corners of their squares: those are set that
have the lit colour. -/
def sample (picture : Picture) (scale : Nat) (lit : Tint) : List Bool :=
  (List.range 2048).map fun place =>
    decide ((picture.pixel? (scale * (place % 64)) (scale * (place / 64))).map Colour.tint = some lit)

section

variable {picture : Picture} {display : Display} {scale : Nat} {palette : Palette}

theorem pixel?_eq_none {column row : Nat} (outside : picture.width ≤ column ∨ picture.height ≤ row) :
    picture.pixel? column row = none := by
  rw [pixel?]
  cases reached : picture.rows[row]? with
  | none => rfl
  | some pixels =>
    have inColumn := (Vector.getElem?_eq_some_iff.mp reached).1
    exact Vector.getElem?_eq_none (outside.resolve_right (Nat.not_le.mpr inColumn))

/-- The corner of a cell's square has the cell's colour. -/
theorem corner_of_depicts (shows : picture.Depicts display scale palette) (positive : 0 < scale)
    {place : Nat} (inside : place < 2048) :
    (picture.pixel? (scale * (place % 64)) (scale * (place / 64))).map Colour.tint =
      some (if display[place] then palette.on else palette.off) := by
  have inRow : scale * (place % 64) < 64 * scale := by
    rw [Nat.mul_comm]
    exact Nat.mul_lt_mul_of_pos_right (Nat.mod_lt place (by decide)) positive
  have inColumn : scale * (place / 64) < 32 * scale := by
    rw [Nat.mul_comm]
    exact Nat.mul_lt_mul_of_pos_right (by omega) positive
  rw [shows.pixel _ _ inRow inColumn, Nat.mul_div_cancel_left _ positive,
    Nat.mul_div_cancel_left _ positive, Nat.div_add_mod', Vector.getElem?_eq_getElem inside]
  simp only [Option.some.injEq]

theorem sample_of_depicts (shows : picture.Depicts display scale palette) (positive : 0 < scale)
    (apart : palette.on ≠ palette.off) : picture.sample scale palette.on = display.toList := by
  refine List.ext_getElem ?_ fun place inSample inDisplay => ?_
  · rw [sample, List.length_map, List.length_range, display.length_toList]
  · have inside : place < 2048 := by rwa [display.length_toList] at inDisplay
    simp only [sample, List.getElem_map, List.getElem_range, Vector.getElem_toList]
    rw [corner_of_depicts shows positive inside]
    cases display[place] with
    | true => exact decide_eq_true rfl
    | false => exact decide_eq_false fun same => apart (Option.some.inj same).symm

/-- A picture is the one at scale one with every pixel repeated along both edges. -/
theorem pixel?_of_depicts {small : Picture} (shows : picture.Depicts display scale palette)
    (plain : small.Depicts display 1 palette) (positive : 0 < scale) (column row : Nat) :
    picture.pixel? column row = small.pixel? (column / scale) (row / scale) := by
  by_cases inside : column < 64 * scale ∧ row < 32 * scale
  · obtain ⟨inRow, inColumn⟩ := inside
    apply Option.map_injective Colour.tint_injective
    rw [shows.pixel column row inRow inColumn, plain.pixel _ _ (place_lt inRow) (place_lt inColumn),
      Nat.div_one, Nat.div_one]
  · have outside : 64 * scale ≤ column ∨ 32 * scale ≤ row := by omega
    rw [pixel?_eq_none, pixel?_eq_none]
    · rw [plain.width, plain.height]
      exact outside.imp (Nat.le_div_iff_mul_le positive).mpr (Nat.le_div_iff_mul_le positive).mpr
    · rwa [shows.width, shows.height]

end

/-! ## Pictures of blocks -/

section

variable {tree : CellTree} {scale : Int} {palette : Palette}

theorem renderTree_of_cells (read : tree.cells = .ok tree.lit) (counted : tree.lit.length = 2048)
    (positive : 1 ≤ scale) (fits : palette.Fits) :
    ∃ picture, renderTree tree scale palette = .ok picture ∧
      picture.Depicts ⟨tree.lit.toArray, counted⟩ scale.toNat palette := by
  obtain ⟨picture, made, shows⟩ := render_of_fits fits ⟨tree.lit.toArray, counted⟩ positive
  refine ⟨picture, ?_, shows⟩
  rw [renderTree, if_neg (Int.not_lt.mpr positive), read]
  exact made

theorem renderTree_of_unevenness {why : CellTree.Unevenness} (uneven : tree.cells = .error why)
    (positive : 1 ≤ scale) : renderTree tree scale palette = .error (.unevenCells why) := by
  rw [renderTree, if_neg (Int.not_lt.mpr positive), uneven]
  rfl

theorem renderTree_of_count (read : tree.cells = .ok tree.lit) (miscounted : tree.lit.length ≠ 2048)
    (positive : 1 ≤ scale) : renderTree tree scale palette = .error (.badCount tree.lit.length) := by
  rw [renderTree, if_neg (Int.not_lt.mpr positive), read]
  dsimp only
  rw [render, if_neg (Int.not_lt.mpr positive), dif_neg miscounted]
  rfl

end

end Picture

/-- Pictures of cells in groups. A block of 2048 cells with at most 64 dimensions is rendered at any
scale from one on, in any colours that fit in bytes: a cell becomes a square of pixels in its colour, so
that the cells can be read back if the colours differ, and the picture is the one at scale one with every
pixel repeated along both edges. A block of more dimensions is refused. So are other scales, whatever the
cells and the colours are, and other numbers of cells, whatever the colours are. -/
theorem block_rendered :
    (∀ (sizes : List Nat) (tree : CellTree) (scale : Nat) (palette : Palette),
      CellTree.Block sizes tree → sizes.length ≤ 64 → tree.lit.length = 2048 → 1 ≤ scale →
      palette.Fits →
      ∃ picture small : Picture,
        Picture.renderTree tree scale palette = .ok picture ∧
        Picture.renderTree tree 1 palette = .ok small ∧
        picture.width = 64 * scale ∧ picture.height = 32 * scale ∧
        (∀ column row, column < 64 * scale → row < 32 * scale →
          (picture.pixel? column row).map Colour.tint =
            some (if tree.lit[row / scale * 64 + column / scale]? = some true then palette.on
              else palette.off)) ∧
        (palette.on ≠ palette.off → picture.sample scale palette.on = tree.lit) ∧
        ∀ column row, picture.pixel? column row = small.pixel? (column / scale) (row / scale)) ∧
    (∀ (sizes : List Nat) (tree : CellTree) (scale : Int) (palette : Palette),
      CellTree.Block sizes tree → 64 < sizes.length → tree.lit.length = 2048 → 1 ≤ scale →
      Picture.renderTree tree scale palette = .error (.unevenCells .tooDeep)) ∧
    (∀ (tree : CellTree) (scale : Int) (palette : Palette), scale < 1 →
      Picture.renderTree tree scale palette = .error (.badScale scale)) ∧
    (∀ (tree : CellTree) (scale : Int) (palette : Palette), 1 ≤ scale → tree.lit.length ≠ 2048 →
      (Picture.renderTree tree scale palette = .error (.badCount tree.lit.length) ∨
        ∃ why, Picture.renderTree tree scale palette = .error (.unevenCells why)) ∧
      ∀ sizes, CellTree.Block sizes tree → sizes.length ≤ 64 →
        Picture.renderTree tree scale palette = .error (.badCount tree.lit.length)) := by
  refine ⟨fun sizes tree scale palette block shallow counted positive fits => ?_,
    fun sizes tree scale palette block deep counted positive => ?_,
    fun tree scale palette small => if_pos small,
    fun tree scale palette positive miscounted => ⟨?_, fun sizes block shallow => ?_⟩⟩
  · have read := CellTree.cells_of_block block shallow
    obtain ⟨picture, made, shows⟩ :=
      Picture.renderTree_of_cells read counted (Int.ofNat_le.mpr positive) fits
    obtain ⟨small, madeSmall, plain⟩ := Picture.renderTree_of_cells read counted (Int.le_refl 1) fits
    refine ⟨picture, small, made, madeSmall, shows.width, shows.height, fun column row inRow inColumn =>
      ?_, fun apart => Picture.sample_of_depicts shows positive apart,
      Picture.pixel?_of_depicts shows plain positive⟩
    have pixel := shows.pixel column row inRow inColumn
    rwa [← Vector.getElem?_toArray, List.getElem?_toArray] at pixel
  · refine Picture.renderTree_of_unevenness (CellTree.cells_of_deep block deep fun none => ?_) positive
    rw [none] at counted
    cases counted
  · rcases tree.cells_eq with read | ⟨why, uneven⟩
    · exact .inl (Picture.renderTree_of_count read miscounted positive)
    · exact .inr ⟨why, Picture.renderTree_of_unevenness uneven positive⟩
  · exact Picture.renderTree_of_count (CellTree.cells_of_block block shallow) miscounted positive

/-- A row of cells as numbers and flags. -/
def mixedRow : List CellValue :=
  [.whole 0, .whole (-3), .flag true, .flag false] ++ List.replicate 60 (.whole 1)

/-- Thirty-two rows of the mixed cells at three times the size: the pixels of a cell are those of its
place in the row. One row alone has too few cells. -/
theorem block_rendered_mixed :
    let tree := CellTree.group (List.replicate 32 (.row mixedRow))
    let deep := CellTree.nested 63 tree
    CellTree.Block [32, 64] tree ∧ Palette.classic.Fits ∧
    (∃ picture small : Picture, Picture.renderTree tree 3 Palette.classic = .ok picture ∧
      Picture.renderTree tree 1 Palette.classic = .ok small ∧
      (picture.pixel? 5 95).map Colour.tint = some ⟨0, 255, 0⟩ ∧
      (picture.pixel? 2 95).map Colour.tint = some ⟨0, 0, 0⟩ ∧
      picture.sample 3 ⟨0, 255, 0⟩ = tree.lit ∧
      picture.pixel? 191 40 = small.pixel? 63 13) ∧
    Picture.renderTree deep 3 Palette.classic = .error (.unevenCells .tooDeep) ∧
    Picture.renderTree tree 0 ⟨⟨256, 0, 0⟩, ⟨0, 0, 0⟩⟩ = .error (.badScale 0) ∧
    Picture.renderTree (.row mixedRow) 3 ⟨⟨256, 0, 0⟩, ⟨0, 0, 0⟩⟩ = .error (.badCount 64) := by
  intro tree deep
  obtain ⟨rendered, refused, scales, counts⟩ := block_rendered
  have block : CellTree.Block [32, 64] tree := CellTree.block_repeat (CellTree.block_row mixedRow) 32
  have counted : tree.lit.length = 2048 := CellTree.length_lit_of_block block
  have fits := Palette.fits_of_ofName? (show Palette.ofName? "classic" = some .classic from rfl)
  have deepBlock := CellTree.block_nested block 63
  obtain ⟨picture, small, made, madeSmall, -, -, pixel, sample, repeated⟩ :=
    rendered [32, 64] tree 3 Palette.classic block (by decide) counted (by decide) fits
  refine ⟨block, fits, ⟨picture, small, made, madeSmall, ?_, ?_, sample (by decide), repeated 191 40⟩,
    refused _ deep 3 Palette.classic deepBlock ?_ ?_ (by decide), scales tree 0 _ (by decide), ?_⟩
  · rw [pixel 5 95 (by decide) (by decide), if_pos (by decide +kernel)]
    rfl
  · rw [pixel 2 95 (by decide) (by decide), if_neg (by decide +kernel)]
    rfl
  · rw [List.length_append, List.length_replicate]
    decide
  · rw [CellTree.length_lit_of_block deepBlock]
    decide +kernel
  · exact (counts (.row mixedRow) 3 _ (by decide) (by decide +kernel)).2 [64]
      (CellTree.block_row mixedRow) (by decide)

/-- Cells in a list inside sixty-four lists of one member each are a block of 2048 cells, and a picture
of them is refused. -/
theorem block_refused_too_deep :
    let tree := CellTree.nested 64 (.row (List.replicate 2048 (.whole 0)))
    CellTree.Block (List.replicate 64 1 ++ [2048]) tree ∧ tree.lit.length = 2048 ∧
    Palette.classic.Fits ∧
    Picture.renderTree tree 1 Palette.classic = .error (.unevenCells .tooDeep) := by
  intro tree
  have block : CellTree.Block (List.replicate 64 1 ++ [2048]) tree := by
    have inner := CellTree.block_row (List.replicate 2048 (.whole 0))
    rw [List.length_replicate] at inner
    exact CellTree.block_nested inner 64
  have counted : tree.lit.length = 2048 :=
    (CellTree.length_lit_of_block block).trans (by decide +kernel)
  have deep : 64 < (List.replicate 64 1 ++ [2048]).length := by decide +kernel
  have fits := Palette.fits_of_ofName? (show Palette.ofName? "classic" = some .classic from rfl)
  refine ⟨block, counted, fits, ?_⟩
  refine Picture.renderTree_of_unevenness (CellTree.cells_of_deep block deep fun none => ?_) (by decide)
  rw [none] at counted
  cases counted

end Chip8
