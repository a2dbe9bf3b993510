import Mathlib

/-!
# The left-aligned layout

`layoutAttributesForElements(in:)` walks through the attributes that the superclass delivers, with
the left margin and the largest bottom so far, and starts a new row where a cell lies below that
bottom. `alignRow` is what it is meant to do with a row: one cell after the other from the inset on.

Cells of one row are centred, so none of them starts below the bottom of another one, and the margin
runs on (`forEach_place`); the first cell of the next row starts below all of them, and resets it
(`forEach_rows`). The bottom starts at -1, so a row that begins above that is taken for a part of
the row before it: `layout_leftAligned` asks of every row but the first that it does not.
-/

namespace TimeCapsule.Home

structure CGRect where
  x : Rat
  y : Rat
  width : Rat
  height : Rat
deriving DecidableEq, Repr

namespace CGRect

/-- `CGRect.width` and the edges are those of the standardized rectangle. -/
def standardWidth (r : CGRect) : Rat := |r.width|

def minX (r : CGRect) : Rat := min r.x (r.x + r.width)

def maxX (r : CGRect) : Rat := max r.x (r.x + r.width)

def minY (r : CGRect) : Rat := min r.y (r.y + r.height)

def maxY (r : CGRect) : Rat := max r.y (r.y + r.height)

def midY (r : CGRect) : Rat := r.y + r.height / 2

end CGRect

inductive ElementCategory where
  | cell
  | supplementaryView
  | decorationView
deriving DecidableEq, Repr

structure UICollectionViewLayoutAttributes where
  representedElementCategory : ElementCategory
  frame : CGRect
deriving DecidableEq, Repr

namespace UICollectionViewLayoutAttributes

def isCell (a : UICollectionViewLayoutAttributes) : Bool := a.representedElementCategory == .cell

/-- The attributes with `frame.origin.x` assigned. -/
def moved (a : UICollectionViewLayoutAttributes) (x : Rat) : UICollectionViewLayoutAttributes :=
  { a with frame.x := x }

/-- Moving does not change what kind of element it is. -/
lemma isCell_moved (a : UICollectionViewLayoutAttributes) (x : Rat) :
    (a.moved x).isCell = a.isCell := rfl

/-- Two frames share an inner point. -/
def Overlap (a b : UICollectionViewLayoutAttributes) : Prop :=
  a.frame.minX < b.frame.maxX ∧ b.frame.minX < a.frame.maxX ∧
    a.frame.minY < b.frame.maxY ∧ b.frame.minY < a.frame.maxY

end UICollectionViewLayoutAttributes

open UICollectionViewLayoutAttributes

structure LeftAlignedCollectionViewFlowLayout where
  sectionInsetLeft : Rat
  minimumInteritemSpacing : Rat

namespace LeftAlignedCollectionViewFlowLayout
variable (flow : LeftAlignedCollectionViewFlowLayout)

/-- The loop over the attributes, with its two variables. -/
def forEach : Rat → Rat → List UICollectionViewLayoutAttributes →
    List UICollectionViewLayoutAttributes
  | _, _, [] => []
  | leftMargin, maxY, a :: as =>
    if a.isCell then
      let leftMargin := if a.frame.y ≥ maxY then flow.sectionInsetLeft else leftMargin
      let a := a.moved leftMargin
      a :: forEach (leftMargin + (a.frame.standardWidth + flow.minimumInteritemSpacing))
        (max a.frame.maxY maxY) as
    else
      a :: forEach leftMargin maxY as

/-- `layoutAttributesForElements(in:)` over what the superclass delivers. -/
def layoutAttributesForElements (attributes : Option (List UICollectionViewLayoutAttributes)) :
    Option (List UICollectionViewLayoutAttributes) :=
  attributes.map (flow.forEach flow.sectionInsetLeft (-1))

/-- A row with each cell behind the ones before it, from the inset on. -/
def alignRow (row : List UICollectionViewLayoutAttributes) : List UICollectionViewLayoutAttributes :=
  row.mapIdx fun i a => a.moved (flow.sectionInsetLeft +
    ((row.take i).map fun b => b.frame.width + flow.minimumInteritemSpacing).sum)

/-- Cells in rows: each row is not empty and has one centre line, cells are no less wide than 0 and
higher than 0, and a row begins at or below the bottoms of the earlier ones. -/
structure Rows (rows : List (List UICollectionViewLayoutAttributes)) : Prop where
  nonempty : ∀ row ∈ rows, row ≠ []
  width : ∀ row ∈ rows, ∀ a ∈ row, 0 ≤ a.frame.width
  height : ∀ row ∈ rows, ∀ a ∈ row, 0 < a.frame.height
  centre : ∀ row ∈ rows, ∀ a ∈ row, ∀ b ∈ row, a.frame.midY = b.frame.midY
  below : rows.Pairwise fun row row' => ∀ a ∈ row, ∀ b ∈ row', a.frame.maxY ≤ b.frame.y

/-- Only the `x` of a cell is changed. -/
def Keeps (a b : UICollectionViewLayoutAttributes) : Prop :=
  if a.isCell then b = a.moved b.frame.x else b = a

/-- The layout of the attributes whose cells form `rows` is left aligned. -/
def LeftAligned (attributes : List UICollectionViewLayoutAttributes)
    (rows : List (List UICollectionViewLayoutAttributes)) : Prop :=
  ∃ result, flow.layoutAttributesForElements (some attributes) = some result ∧
    List.Forall₂ Keeps attributes result ∧
    result.filter isCell = rows.flatMap flow.alignRow ∧
    (result.filter isCell).Pairwise fun a b => ¬ a.Overlap b

/-! ## The loop and the cells -/

variable {flow} {a : UICollectionViewLayoutAttributes} {leftMargin maxY : Rat}
  {as row rest : List UICollectionViewLayoutAttributes}
  {rows : List (List UICollectionViewLayoutAttributes)}

/-- The loop keeps everything but the `x` of cells. -/
lemma forEach_keeps (leftMargin maxY : Rat) (as : List UICollectionViewLayoutAttributes) :
    List.Forall₂ Keeps as (flow.forEach leftMargin maxY as) := by
  induction as generalizing leftMargin maxY with
  | nil => exact .nil
  | cons a as ih =>
    unfold forEach
    split
    · next cell => exact .cons (by rw [Keeps, if_pos cell]; rfl) (ih _ _)
    · next other => exact .cons (by rw [Keeps, if_neg other]) (ih _ _)

/-- Other attributes do not matter to the cells. -/
lemma forEach_filter (leftMargin maxY : Rat) (as : List UICollectionViewLayoutAttributes) :
    (flow.forEach leftMargin maxY as).filter isCell =
      flow.forEach leftMargin maxY (as.filter isCell) := by
  induction as generalizing leftMargin maxY with
  | nil => rfl
  | cons a as ih =>
    cases cell : a.isCell with
    | true => simp only [forEach, List.filter_cons, isCell_moved, cell, if_true, ih]
    | false => simp only [forEach, List.filter_cons, cell, Bool.false_eq_true, if_false, ih]

/-! ## One row -/

/-- The cells of a row from an `x` on. -/
def place (flow : LeftAlignedCollectionViewFlowLayout) :
    Rat → List UICollectionViewLayoutAttributes → List UICollectionViewLayoutAttributes
  | _, [] => []
  | x, a :: as => a.moved x :: place flow (x + (a.frame.width + flow.minimumInteritemSpacing)) as

/-- The `x` behind the cells of a row. -/
def behind (flow : LeftAlignedCollectionViewFlowLayout) (x : Rat)
    (row : List UICollectionViewLayoutAttributes) : Rat :=
  x + (row.map fun b => b.frame.width + flow.minimumInteritemSpacing).sum

/-- The largest bottom of a row and `maxY`. -/
def bottom (maxY : Rat) (row : List UICollectionViewLayoutAttributes) : Rat :=
  row.foldl (fun maxY a => max a.frame.maxY maxY) maxY

/-- Placing cells one after the other is placing each behind the ones before it. -/
lemma place_eq (x : Rat) (row : List UICollectionViewLayoutAttributes) :
    flow.place x row = row.mapIdx fun i a => a.moved (flow.behind x (row.take i)) := by
  induction row generalizing x with
  | nil => rfl
  | cons a row ih =>
    rw [place, ih, List.mapIdx_cons]
    simp [behind, add_assoc]

lemma alignRow_eq (row : List UICollectionViewLayoutAttributes) :
    flow.alignRow row = flow.place flow.sectionInsetLeft row :=
  (place_eq _ _).symm

/-- The largest bottom is the least bound of all of them. -/
lemma bottom_le_iff {y : Rat} : bottom maxY row ≤ y ↔ maxY ≤ y ∧ ∀ a ∈ row, a.frame.maxY ≤ y := by
  induction row generalizing maxY with
  | nil => simp [bottom]
  | cons a row ih =>
    have step : bottom maxY (a :: row) = bottom (max a.frame.maxY maxY) row := rfl
    rw [step, ih, max_le_iff, List.forall_mem_cons]
    tauto

/-- While no cell starts below the bottom so far, the margin runs on. -/
lemma forEach_place (cells : ∀ a ∈ row, a.isCell) (width : ∀ a ∈ row, 0 ≤ a.frame.width)
    (within : ∀ a ∈ row, a.frame.y < maxY) :
    flow.forEach leftMargin maxY (row ++ rest) =
      flow.place leftMargin row ++
        flow.forEach (flow.behind leftMargin row) (bottom maxY row) rest := by
  induction row generalizing leftMargin maxY with
  | nil => simp [place, behind, bottom]
  | cons a row ih =>
    have runsOn : ¬ a.frame.y ≥ maxY := (within a (.head _)).not_ge
    have standard : (a.moved leftMargin).frame.standardWidth = a.frame.width :=
      abs_of_nonneg (width a (.head _))
    have later (b : UICollectionViewLayoutAttributes) (hb : b ∈ row) :
        b.frame.y < max (a.moved leftMargin).frame.maxY maxY :=
      (within b (.tail _ hb)).trans_le (le_max_right _ _)
    rw [List.cons_append, forEach, if_pos (cells a (.head _))]
    simp only [if_neg runsOn, standard]
    rw [ih (fun b hb => cells b (.tail _ hb)) (fun b hb => width b (.tail _ hb)) later]
    simp only [place, behind, bottom, List.map_cons, List.sum_cons, List.foldl_cons, add_assoc,
      List.cons_append]
    rfl

/-- In a row no cell starts below the bottom of another one. -/
lemma y_lt_maxY {b : UICollectionViewLayoutAttributes} (ha : 0 < a.frame.height)
    (hb : 0 < b.frame.height) (centre : a.frame.midY = b.frame.midY) : b.frame.y < a.frame.maxY := by
  refine lt_of_lt_of_le ?_ (le_max_right _ _)
  unfold CGRect.midY at centre
  linarith

/-! ## All rows -/

/-- A row that begins below `maxY` or at the inset is aligned; then the bottom is that of the row
too. -/
lemma forEach_row (cells : ∀ b ∈ a :: row, b.isCell) (width : ∀ b ∈ a :: row, 0 ≤ b.frame.width)
    (height : ∀ b ∈ a :: row, 0 < b.frame.height)
    (centre : ∀ b ∈ a :: row, ∀ b' ∈ a :: row, b.frame.midY = b'.frame.midY)
    (first : leftMargin = flow.sectionInsetLeft ∨ maxY ≤ a.frame.y) :
    flow.forEach leftMargin maxY (a :: row ++ rest) = flow.alignRow (a :: row) ++
      flow.forEach (flow.behind flow.sectionInsetLeft (a :: row)) (bottom maxY (a :: row)) rest := by
  have start : (if a.frame.y ≥ maxY then flow.sectionInsetLeft else leftMargin) =
      flow.sectionInsetLeft := by
    obtain first | first := first
    · rw [first, ite_self]
    · exact if_pos first
  have standard : (a.moved flow.sectionInsetLeft).frame.standardWidth = a.frame.width :=
    abs_of_nonneg (width a (.head _))
  have within (b : UICollectionViewLayoutAttributes) (hb : b ∈ row) :
      b.frame.y < max (a.moved flow.sectionInsetLeft).frame.maxY maxY :=
    (y_lt_maxY (height a (.head _)) (height b (.tail _ hb)) (centre a (.head _) b (.tail _ hb))).trans_le
      (le_max_left _ _)
  rw [List.cons_append, forEach, if_pos (cells a (.head _)), alignRow_eq]
  simp only [start, standard]
  rw [forEach_place (fun b hb => cells b (.tail _ hb)) (fun b hb => width b (.tail _ hb)) within]
  simp only [place, behind, bottom, List.map_cons, List.sum_cons, List.foldl_cons, add_assoc,
    List.cons_append]
  rfl

/-- The loop aligns row after row. -/
lemma forEach_rows (h : Rows rows) (cells : ∀ row ∈ rows, ∀ a ∈ row, a.isCell)
    (first : leftMargin = flow.sectionInsetLeft ∨ ∀ row ∈ rows, ∀ a ∈ row.head?, maxY ≤ a.frame.y)
    (later : ∀ row ∈ rows.tail, ∀ a ∈ row.head?, maxY ≤ a.frame.y) :
    flow.forEach leftMargin maxY rows.flatten = rows.flatMap flow.alignRow := by
  induction rows generalizing leftMargin maxY with
  | nil => rfl
  | cons row rows ih =>
    obtain ⟨a, row, rfl⟩ := List.exists_cons_of_ne_nil (h.nonempty row (.head _))
    obtain ⟨below, pairwise⟩ := List.pairwise_cons.1 h.below
    have rest : Rows rows :=
      ⟨fun r hr => h.nonempty r (.tail _ hr), fun r hr => h.width r (.tail _ hr),
        fun r hr => h.height r (.tail _ hr), fun r hr => h.centre r (.tail _ hr), pairwise⟩
    -- the next rows begin below this one, and below everything before it
    have next (r : List UICollectionViewLayoutAttributes) (hr : r ∈ rows)
        (b : UICollectionViewLayoutAttributes) (hb : b ∈ r.head?) :
        bottom maxY (a :: row) ≤ b.frame.y :=
      bottom_le_iff.2 ⟨later r hr b hb, fun c hc => below r hr c hc b (List.mem_of_mem_head? hb)⟩
    rw [List.flatten_cons, List.flatMap_cons, forEach_row (cells _ (.head _)) (h.width _ (.head _))
      (h.height _ (.head _)) (h.centre _ (.head _)) (first.imp id fun f => f _ (.head _) a rfl)]
    rw [ih rest (fun r hr => cells r (.tail _ hr)) (.inr next) fun r hr => next r (List.mem_of_mem_tail hr)]

/-! ## Overlaps -/

/-- A placed cell is a moved one, and begins at or behind the place where the row begins. -/
lemma of_mem_place {x : Rat} (spacing : 0 ≤ flow.minimumInteritemSpacing)
    (width : ∀ a ∈ row, 0 ≤ a.frame.width) {b : UICollectionViewLayoutAttributes}
    (hb : b ∈ flow.place x row) : x ≤ b.frame.minX ∧ ∃ a ∈ row, b = a.moved b.frame.x := by
  induction row generalizing x with
  | nil => cases hb
  | cons a row ih =>
    have aWidth := width a (.head _)
    obtain rfl | hb := List.mem_cons.1 hb
    · refine ⟨le_min le_rfl ?_, a, .head _, rfl⟩
      show x ≤ x + a.frame.width
      linarith
    · obtain ⟨after, a', ha', e⟩ := ih (fun a ha => width a (.tail _ ha)) hb
      exact ⟨by linarith, a', .tail _ ha', e⟩

/-- The cells of a placed row do not overlap. -/
lemma place_disjoint {x : Rat} (spacing : 0 ≤ flow.minimumInteritemSpacing)
    (width : ∀ a ∈ row, 0 ≤ a.frame.width) :
    (flow.place x row).Pairwise fun a b => ¬ a.Overlap b := by
  induction row generalizing x with
  | nil => exact .nil
  | cons a row ih =>
    refine .cons (fun b hb overlap => ?_) (ih fun a ha => width a (.tail _ ha))
    have after := (of_mem_place spacing (fun a ha => width a (.tail _ ha)) hb).1
    have aWidth := width a (.head _)
    have right : (a.moved x).frame.maxX = x + a.frame.width := max_eq_right (by
      show x ≤ x + a.frame.width
      linarith)
    have inside := overlap.2.1
    rw [right] at inside
    linarith

/-- An aligned cell has the edges at top and bottom of a cell of its row. -/
lemma of_mem_alignRow (spacing : 0 ≤ flow.minimumInteritemSpacing)
    (width : ∀ a ∈ row, 0 ≤ a.frame.width) {b : UICollectionViewLayoutAttributes}
    (hb : b ∈ flow.alignRow row) :
    ∃ a ∈ row, b.frame.minY = a.frame.minY ∧ b.frame.maxY = a.frame.maxY := by
  rw [alignRow_eq] at hb
  obtain ⟨_, a, ha, e⟩ := of_mem_place spacing width hb
  rw [e]
  exact ⟨a, ha, rfl, rfl⟩

/-- The cells of aligned rows do not overlap. -/
lemma alignRow_disjoint (spacing : 0 ≤ flow.minimumInteritemSpacing) (h : Rows rows) :
    (rows.flatMap flow.alignRow).Pairwise fun a b => ¬ a.Overlap b := by
  apply List.pairwise_flatMap.2
  constructor
  · intro row hrow
    rw [alignRow_eq]
    exact place_disjoint spacing (h.width row hrow)
  · apply h.below.imp_of_mem
    intro row row' hrow hrow' below a ha b hb overlap
    obtain ⟨a', ha', _, bottom⟩ := of_mem_alignRow spacing (h.width row hrow) ha
    obtain ⟨b', hb', top, _⟩ := of_mem_alignRow spacing (h.width row' hrow') hb
    have inside := overlap.2.2.2
    rw [bottom, top] at inside
    have height := h.height row' hrow' b' hb'
    have minY : b'.frame.minY = b'.frame.y := min_eq_left (by linarith)
    rw [minY] at inside
    exact inside.not_ge (below a' ha' b' hb')

/-- For every list of attributes whose cells come in rows, the layout is left aligned, as long as no
row but the first begins above -1. -/
theorem layout_leftAligned {attributes : List UICollectionViewLayoutAttributes}
    (cells : attributes.filter isCell = rows.flatten) (h : Rows rows)
    (spacing : 0 ≤ flow.minimumInteritemSpacing)
    (begins : ∀ row ∈ rows.tail, ∀ a ∈ row.head?, -1 ≤ a.frame.y) :
    flow.LeftAligned attributes rows := by
  have isCell (row) (hrow : row ∈ rows) (a) (ha : a ∈ row) : a.isCell := by
    have mem : a ∈ attributes.filter UICollectionViewLayoutAttributes.isCell := by
      rw [cells]
      exact List.mem_flatten.2 ⟨row, hrow, ha⟩
    exact (List.mem_filter.1 mem).2
  have aligned : (flow.forEach flow.sectionInsetLeft (-1) attributes).filter
      UICollectionViewLayoutAttributes.isCell = rows.flatMap flow.alignRow := by
    rw [forEach_filter, cells]
    exact forEach_rows h isCell (.inl rfl) begins
  refine ⟨_, rfl, forEach_keeps _ _ _, aligned, ?_⟩
  rw [aligned]
  exact alignRow_disjoint spacing h

/-- Two cells of different heights with a header between them, and a cell below. -/
theorem layout_leftAligned_mixed :
    LeftAligned ⟨8, 5⟩
      [⟨.cell, ⟨0, 10, 30, 20⟩⟩, ⟨.supplementaryView, ⟨0, 0, 90, 10⟩⟩, ⟨.cell, ⟨50, 15, 20, 10⟩⟩,
        ⟨.cell, ⟨40, 30, 20, 10⟩⟩]
      [[⟨.cell, ⟨0, 10, 30, 20⟩⟩, ⟨.cell, ⟨50, 15, 20, 10⟩⟩], [⟨.cell, ⟨40, 30, 20, 10⟩⟩]] :=
  layout_leftAligned rfl
    ⟨by decide +kernel, by decide +kernel, by decide +kernel, by decide +kernel, by decide +kernel⟩
    (by decide +kernel) (by decide +kernel)

/-- Two rows above -1: the second one is taken for a part of the first. -/
theorem layout_not_leftAligned :
    ¬ ∀ (flow : LeftAlignedCollectionViewFlowLayout)
        (attributes : List UICollectionViewLayoutAttributes)
        (rows : List (List UICollectionViewLayoutAttributes)),
      attributes.filter isCell = rows.flatten → Rows rows → 0 ≤ flow.minimumInteritemSpacing →
        flow.LeftAligned attributes rows := by
  intro h
  obtain ⟨result, computed, _, aligned, _⟩ := h ⟨0, 5⟩
    [⟨.cell, ⟨0, -30, 10, 10⟩⟩, ⟨.cell, ⟨0, -15, 10, 10⟩⟩]
    [[⟨.cell, ⟨0, -30, 10, 10⟩⟩], [⟨.cell, ⟨0, -15, 10, 10⟩⟩]] rfl
    ⟨by decide +kernel, by decide +kernel, by decide +kernel, by decide +kernel, by decide +kernel⟩
    (by decide +kernel)
  cases computed
  revert aligned
  decide +kernel

end LeftAlignedCollectionViewFlowLayout

end TimeCapsule.Home
