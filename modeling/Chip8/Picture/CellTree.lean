/-!
# Cells in groups

Cells as a host gives them: flags and numbers, of which every one but zero is lit, alone or nested in
groups. The groups must form a block. On every level all groups have the same size, and cells and
groups never stand side by side; then `CellTree.cells` yields the cells in order. Of other trees it
reports the dimensions down to the level where they stop to be a block.
-/

namespace Chip8

/-- A cell as a host may give it. -/
inductive CellValue where
  | flag (lit : Bool)
  | whole (number : Int)
  | real (number : Float)
deriving Repr, Inhabited

/-- A cell is lit unless it is false or zero. -/
def CellValue.isLit : CellValue → Bool
  | .flag lit => lit
  | .whole number => number != 0
  | .real number => number != 0

/-- Cells in groups of any depth. -/
inductive CellTree where
  | cell (value : CellValue)
  | group (parts : List CellTree)
deriving Repr, Inhabited

namespace CellTree

mutual

/-- The cells of a tree in order, each as lit or not. -/
def lit : CellTree → List Bool
  | .cell value => [value.isLit]
  | .group parts => litAll parts

/-- The cells of several trees in order. -/
def litAll : List CellTree → List Bool
  | [] => []
  | tree :: rest => tree.lit ++ litAll rest

end

def isCell : CellTree → Bool
  | .cell _ => true
  | .group _ => false

/-- The members of a group; a cell has none. -/
def parts : CellTree → List CellTree
  | .cell _ => []
  | .group parts => parts

/-- The number of members of a group. -/
def size? : CellTree → Option Nat
  | .cell _ => none
  | .group parts => some parts.length

/-- The size of each of the trees, if there are any and all are groups of one size. -/
def commonSize? : List CellTree → Option Nat
  | [] => none
  | first :: rest => if rest.all (·.size? == first.size?) then first.size? else none

/-- The sizes of the groups level by level, as long as they agree and for at most `limit` levels, and
the trees below the last of these levels. -/
def dimensions : Nat → List CellTree → List Nat × List CellTree
  | 0, trees => ([], trees)
  | limit + 1, trees =>
    match commonSize? trees with
    | none => ([], trees)
    | some size =>
      let (sizes, below) := dimensions limit (trees.flatMap parts)
      (size :: sizes, below)

/-- A block has no more dimensions. This is the limit of the array library that takes the cells, from its
version 2 on; earlier versions stop at 32, and none is prescribed. -/
def dimensionLimit : Nat := 64

/-- Why cells form no block. -/
inductive Unevenness where
  /-- Below the dimensions given, groups differ in size or stand beside cells. -/
  | ragged (sizes : List Nat)
  /-- There are groups below the last dimension that a block may have. -/
  | tooDeep
deriving DecidableEq, Repr

/-- Sizes between parentheses; a single one keeps its comma. -/
def sizesText : List Nat → String
  | [size] => "(" ++ toString size ++ ",)"
  | sizes => "(" ++ ", ".intercalate (sizes.map toString) ++ ")"

def Unevenness.message (unevenness : Unevenness) : String :=
  "setting an array element with a sequence. The requested array " ++
    match unevenness with
    | .ragged sizes =>
      "has an inhomogeneous shape after " ++ toString sizes.length ++
        " dimensions. The detected shape was " ++ sizesText sizes ++ " + inhomogeneous part."
    | .tooDeep => "would exceed the maximum number of dimension of " ++ toString dimensionLimit ++ "."

/-- The cells of a block in order. -/
def cells (tree : CellTree) : Except Unevenness (List Bool) :=
  let (sizes, below) := dimensions dimensionLimit [tree]
  if below.all isCell then .ok tree.lit
  else if sizes.length = dimensionLimit then .error .tooDeep
  else .error (.ragged sizes)

example : (dimensions 3 [.group [.group [.cell (.whole 1)], .group []]]).1 = [2] := by cbv

example : (dimensions 3 [.group [.group [], .group []]]).1 = [2, 0] := by cbv

end CellTree

end Chip8
