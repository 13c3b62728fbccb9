import TurboAccess.Lib.Placement

/-!
# Slices of a buffer, arriving in any order

A receiver that grows places the slices of a sender's buffer where they belong,
and also strings them together as they arrive.  Both give the same bytes,
whatever the buffer holds, exactly when every slice that is not empty begins
where the slices before it end, and none ends past the bytes received.
-/

namespace TurboAccess
namespace Tiling

variable {α : Type*}

/-! ## Placing with room -/

/-- Place a piece into a buffer that grows to hold it; a gap is filled. -/
def placeGrow (fill : α) (buffer : List α) (piece : Piece α) : List α :=
  place (buffer ++ List.replicate (piece.finish - buffer.length) fill) piece

/-- The grown buffer holds the piece. -/
private theorem inside_grown
    (fill : α)
    (buffer : List α)
    (piece : Piece α) :
    piece.Inside (buffer ++
      List.replicate (piece.finish - buffer.length) fill).length := by
  rw [List.length_append, List.length_replicate]
  unfold Piece.Inside Piece.finish
  omega

theorem length_placeGrow
    (fill : α)
    (buffer : List α)
    (piece : Piece α) :
    (placeGrow fill buffer piece).length =
      max buffer.length piece.finish := by
  rw [placeGrow, length_place (inside_grown fill buffer piece),
    List.length_append, List.length_replicate]
  omega

/-- Two pieces side by side are placed as one, also with room. -/
theorem placeGrow_append
    (fill : α)
    (buffer : List α)
    (offset : Nat)
    (first second : List α) :
    placeGrow fill (placeGrow fill buffer ⟨offset, first⟩)
        ⟨offset + first.length, second⟩ =
      placeGrow fill buffer ⟨offset, first ++ second⟩ := by
  have room : Piece.Inside ⟨offset, first⟩ (buffer ++
      List.replicate (offset + first.length - buffer.length) fill).length :=
    inside_grown fill buffer ⟨offset, first⟩
  have grown : (buffer ++
      List.replicate (offset + first.length - buffer.length) fill) ++
        List.replicate (offset + first.length + second.length -
          max buffer.length (offset + first.length)) fill =
      buffer ++ List.replicate
        (offset + (first ++ second).length - buffer.length) fill := by
    rw [List.append_assoc, List.replicate_append_replicate,
      List.length_append]
    congr 2
    omega
  have length := length_placeGrow fill buffer ⟨offset, first⟩
  rw [placeGrow, length]
  unfold placeGrow Piece.finish
  dsimp only
  rw [← place_append_right room, grown, place_append]
  rw [List.length_append, List.length_replicate, List.length_append]
  omega

theorem getD_placeGrow
    (fill : α)
    (buffer : List α)
    (piece : Piece α)
    (position : Nat) :
    (placeGrow fill buffer piece).getD position fill =
      if piece.Covers position then
        piece.content.getD (position - piece.offset) fill
      else buffer.getD position fill := by
  have grown : (buffer ++ List.replicate (piece.finish - buffer.length)
      fill).getD position fill = buffer.getD position fill := by
    by_cases held : position < buffer.length
    · exact List.getD_append _ _ _ _ held
    · rw [List.getD_append_right _ _ _ _ (by omega),
        List.getD_eq_default buffer _ (by omega)]
      by_cases filled : position - buffer.length <
          piece.finish - buffer.length
      · exact List.getD_replicate _ filled
      · exact List.getD_eq_default _ _ (by
          rw [List.length_replicate]
          omega)
  simp only [List.getD_eq_getElem?_getD] at grown ⊢
  rw [placeGrow, getElem?_place (inside_grown fill buffer piece)]
  split
  · rfl
  · exact grown

/-- The piece is where it was placed. -/
theorem take_drop_placeGrow
    (fill : α)
    (buffer : List α)
    (piece : Piece α) :
    ((placeGrow fill buffer piece).drop piece.offset).take
        piece.content.length = piece.content := by
  have before : ((buffer ++ List.replicate (piece.finish - buffer.length)
      fill).take piece.offset).length = piece.offset := by
    rw [List.length_take, List.length_append, List.length_replicate]
    unfold Piece.finish
    omega
  rw [placeGrow, place, List.append_assoc, List.drop_left' before,
    List.take_left]

/-- Placing a piece changes nothing exactly when the buffer has it already. -/
theorem placeGrow_eq_self_iff
    (fill : α)
    (buffer : List α)
    (piece : Piece α) :
    placeGrow fill buffer piece = buffer ↔
      piece.finish ≤ buffer.length ∧
        (buffer.drop piece.offset).take piece.content.length =
          piece.content := by
  constructor
  · intro same
    have length := length_placeGrow fill buffer piece
    rw [same] at length
    refine ⟨by omega, ?_⟩
    have placed := take_drop_placeGrow fill buffer piece
    rwa [same] at placed
  · rintro ⟨inside, held⟩
    unfold placeGrow place
    rw [Nat.sub_eq_zero_of_le inside, List.replicate_zero, List.append_nil]
    calc
      buffer.take piece.offset ++ piece.content ++
          buffer.drop (piece.offset + piece.content.length)
        = buffer.take piece.offset ++
            ((buffer.drop piece.offset).take piece.content.length ++
              (buffer.drop piece.offset).drop piece.content.length) := by
          rw [held, List.drop_drop, List.append_assoc]
      _ = buffer := by rw [List.take_append_drop, List.take_append_drop]

/-- Place pieces one after the other, each with room. -/
def placeGrowAll
    (fill : α)
    (buffer : List α)
    (pieces : List (Piece α)) : List α :=
  pieces.foldl (placeGrow fill) buffer

/-- The buffer is within a size when it was before, and all pieces are. -/
theorem length_placeGrowAll_le_iff
    (fill : α)
    (buffer : List α)
    (pieces : List (Piece α))
    (size : Nat) :
    (placeGrowAll fill buffer pieces).length ≤ size ↔
      buffer.length ≤ size ∧ ∀ piece ∈ pieces, piece.finish ≤ size := by
  induction pieces generalizing buffer with
  | nil => simp [placeGrowAll]
  | cons head tail inductionHypothesis =>
      have rest := inductionHypothesis (placeGrow fill buffer head)
      rw [length_placeGrow] at rest
      rw [placeGrowAll, List.foldl_cons, List.forall_mem_cons, ← and_assoc,
        ← max_le_iff]
      exact rest

/-! ## Whole contents -/

/-- Content placed at the start keeps what the buffer holds past it. -/
theorem placeGrow_start
    (fill : α)
    (buffer content : List α) :
    placeGrow fill buffer ⟨0, content⟩ =
      content ++ buffer.drop content.length := by
  unfold placeGrow place Piece.finish
  rw [List.take_zero, List.nil_append, Nat.zero_add, List.drop_append,
    List.drop_replicate, Nat.sub_self, List.replicate_zero, List.append_nil]

/-- Contents placed at the start one after the other are within a size when each
of them is. -/
theorem length_placeGrowAll_start_le_iff
    (fill : α)
    (contents : List (List α))
    (size : Nat) :
    (placeGrowAll fill [] (contents.map fun content =>
        ⟨0, content⟩)).length ≤ size ↔
      ∀ content ∈ contents, content.length ≤ size := by
  rw [length_placeGrowAll_le_iff, List.forall_mem_map]
  simp [Piece.finish]

/-- The last content is no longer than what all of them leave. -/
theorem length_getLast_le_placeGrowAll
    (fill : α)
    (contents : List (List α)) :
    (contents.getLast?.getD []).length ≤
      (placeGrowAll fill [] (contents.map fun content =>
        ⟨0, content⟩)).length := by
  cases ends : contents.getLast? with
  | none => exact Nat.zero_le _
  | some last =>
      exact (length_placeGrowAll_start_le_iff fill contents _).mp le_rfl last
        (List.mem_of_getLast? ends)

/-- Contents placed at the start one after the other leave the last one when none
of them is longer. -/
theorem placeGrowAll_start
    (fill : α)
    {contents : List (List α)}
    (small : ∀ content ∈ contents,
      content.length ≤ (contents.getLast?.getD []).length) :
    placeGrowAll fill [] (contents.map fun content => ⟨0, content⟩) =
      contents.getLast?.getD [] := by
  rcases List.eq_nil_or_concat contents with rfl | ⟨earlier, last, rfl⟩
  · rfl
  · simp only [List.concat_eq_append, List.getLast?_concat,
      Option.getD_some] at small ⊢
    rw [List.map_append, placeGrowAll, List.foldl_append]
    show placeGrow fill (placeGrowAll fill [] _) ⟨0, last⟩ = last
    rw [placeGrow_start, List.drop_eq_nil_of_le, List.append_nil]
    rw [length_placeGrowAll_start_le_iff]
    intro content listed
    exact small content (List.mem_append_left _ listed)

/-! ## Slices -/

/-- A range of positions: an offset and a length. -/
structure Range where
  offset : Nat
  length : Nat
  deriving DecidableEq

namespace Range

/-- Where a range ends. -/
def finish (range : Range) : Nat := range.offset + range.length

/-- The slice of a buffer at a range. -/
def slice (buffer : List α) (range : Range) : Piece α :=
  ⟨range.offset, (buffer.drop range.offset).take range.length⟩

theorem length_slice
    {buffer : List α}
    {range : Range}
    (within : range.finish ≤ buffer.length) :
    (range.slice buffer).content.length = range.length := by
  unfold finish at within
  rw [slice, List.length_take, List.length_drop]
  omega

theorem finish_slice
    {buffer : List α}
    {range : Range}
    (within : range.finish ≤ buffer.length) :
    (range.slice buffer).finish = range.finish := by
  rw [Piece.finish, length_slice within]
  rfl

end Range

/-- Every range that is not empty begins where the ranges before it end, the
first at `start`. -/
def InOrder : (start : Nat) → List Range → Prop
  | _, [] => True
  | start, range :: rest =>
      (range.length ≠ 0 → range.offset = start) ∧
        InOrder (start + range.length) rest

/-- The lengths of some ranges together. -/
def extent (layout : List Range) : Nat := (layout.map Range.length).sum

/-- Each range begins where the ranges before it end, the first at `start`. -/
def Consecutive : (start : Nat) → List Range → Prop
  | _, [] => True
  | start, range :: rest =>
      range.offset = start ∧ Consecutive (start + range.length) rest

@[simp] theorem extent_nil : extent [] = 0 := rfl

@[simp] theorem extent_cons (range : Range) (rest : List Range) :
    extent (range :: rest) = range.length + extent rest := by
  simp [extent]

/-- Consecutive ranges end where all of them together do, or before. -/
theorem finish_of_consecutive
    {start : Nat}
    {layout : List Range}
    (consecutive : Consecutive start layout)
    {range : Range}
    (listed : range ∈ layout) :
    range.finish ≤ start + extent layout := by
  induction layout generalizing start with
  | nil => cases listed
  | cons head rest inductionHypothesis =>
      obtain ⟨begins, later⟩ := consecutive
      rw [extent_cons]
      rcases List.mem_cons.mp listed with rfl | inRest
      · unfold Range.finish
        omega
      · have before := inductionHypothesis later inRest
        omega

/-- No range of consecutive ones begins before the first. -/
theorem le_offset_of_consecutive
    {start : Nat}
    {layout : List Range}
    (consecutive : Consecutive start layout)
    {range : Range}
    (listed : range ∈ layout) :
    start ≤ range.offset := by
  induction layout generalizing start with
  | nil => cases listed
  | cons head rest inductionHypothesis =>
      obtain ⟨begins, later⟩ := consecutive
      rcases List.mem_cons.mp listed with rfl | inRest
      · exact begins.ge
      · have after := inductionHypothesis later inRest
        omega

/-- Consecutive ranges end before the later ones begin. -/
theorem pairwise_of_consecutive
    {start : Nat}
    {layout : List Range}
    (consecutive : Consecutive start layout) :
    layout.Pairwise fun first second => first.finish ≤ second.offset := by
  induction layout generalizing start with
  | nil => exact .nil
  | cons range rest inductionHypothesis =>
      obtain ⟨begins, later⟩ := consecutive
      refine .cons ?_ (inductionHypothesis later)
      intro other listed
      have after := le_offset_of_consecutive later listed
      rw [Range.finish, begins]
      exact after

/-- Consecutive ranges are in order. -/
theorem inOrder_of_consecutive
    {start : Nat}
    {layout : List Range}
    (consecutive : Consecutive start layout) :
    InOrder start layout := by
  induction layout generalizing start with
  | nil => trivial
  | cons range rest inductionHypothesis =>
      exact ⟨fun _ => consecutive.1, inductionHypothesis consecutive.2⟩

/-- The last of consecutive ranges ends where all of them together do. -/
theorem finish_last_of_consecutive
    {start : Nat}
    {before : List Range}
    {last : Range}
    (consecutive : Consecutive start (before ++ [last])) :
    last.finish = start + extent (before ++ [last]) := by
  induction before generalizing start with
  | nil =>
      have begins : last.offset = start := consecutive.1
      simp [Range.finish, begins]
  | cons head rest inductionHypothesis =>
      have ends := inductionHypothesis consecutive.2
      rw [ends, List.cons_append, extent_cons, Nat.add_assoc]

/-- All of the extent is in the last range exactly when the others are
empty. -/
theorem length_last_iff
    {layout : List Range}
    {last : Range}
    (ends : layout.getLast? = some last) :
    last.length = extent layout ↔
      ∀ range ∈ layout.dropLast, range.length = 0 := by
  obtain ⟨before, rfl⟩ := List.getLast?_eq_some_iff.mp ends
  have split : extent (before ++ [last]) = extent before + last.length := by
    simp [extent]
  rw [split, List.dropLast_concat, extent, Nat.right_eq_add,
    List.sum_eq_zero_iff_forall_eq_nat]
  simp

/-- What some pieces have at a position: the element of the first one that
reaches it. -/
def elementAt (pieces : List (Piece α)) (position : Nat) : Option α :=
  pieces.findSome? fun piece =>
    if piece.offset ≤ position then piece.content[position - piece.offset]?
    else none

theorem elementAt_cons (piece : Piece α) (pieces : List (Piece α))
    (position : Nat) :
    elementAt (piece :: pieces) position =
      (elementAt [piece] position).or (elementAt pieces position) := by
  rw [elementAt, elementAt, elementAt, List.findSome?_cons,
    List.findSome?_singleton]
  split <;> simp [*]

/-- A piece that is moved, along with the position `origin`, to `target`. -/
def Piece.move (origin target : Nat) (piece : Piece α) : Piece α :=
  ⟨target + (piece.offset - origin), piece.content⟩

/-- What a slice that is moved has at a position. -/
theorem elementAt_move_slice
    {buffer : List α}
    {range : Range}
    {origin : Nat}
    (begins : origin ≤ range.offset)
    (target position : Nat) :
    elementAt [(range.slice buffer).move origin target] (target + position) =
      if InRange range.offset range.length (origin + position) then
        buffer[origin + position]?
      else none := by
  rw [elementAt, List.findSome?_singleton]
  change (if target + (range.offset - origin) ≤ target + position then
      ((buffer.drop range.offset).take range.length)[target + position -
        (target + (range.offset - origin))]?
    else none) = _
  by_cases reached : range.offset ≤ origin + position
  · have place : range.offset + (target + position -
        (target + (range.offset - origin))) = origin + position := by omega
    rw [if_pos (by omega), List.getElem?_take, List.getElem?_drop, place]
    exact if_congr (by unfold InRange; omega) rfl rfl
  · rw [if_neg (by omega)]
    exact (if_neg fun within => reached within.1).symm

/-- Consecutive slices that are moved have, at the positions they make up, what
the buffer has. -/
theorem elementAt_of_consecutive
    {buffer : List α}
    {start origin : Nat}
    {layout : List Range}
    (consecutive : Consecutive start layout)
    (begins : origin ≤ start)
    (target position : Nat) :
    elementAt (layout.map fun range => (range.slice buffer).move origin target)
        (target + position) =
      if InRange start (extent layout) (origin + position) then
        buffer[origin + position]?
      else none := by
  induction layout generalizing start with
  | nil =>
      rw [if_neg]
      · rfl
      · rintro ⟨after, before⟩
        rw [extent_nil] at before
        omega
  | cons range rest inductionHypothesis =>
      obtain ⟨own, later⟩ := consecutive
      have head := @elementAt_move_slice _ buffer range origin
        (begins.trans own.ge) target position
      have tail := inductionHypothesis later (by omega)
      rw [List.map_cons, elementAt_cons, head, tail, own, extent_cons]
      by_cases inHead : InRange start range.length (origin + position)
      · have inAll : InRange start (range.length + extent rest)
            (origin + position) := by
          unfold InRange at inHead ⊢
          omega
        have notLater : ¬InRange (start + range.length) (extent rest)
            (origin + position) := by
          unfold InRange at inHead ⊢
          omega
        rw [if_pos inHead, if_pos inAll, if_neg notLater, Option.or_none]
      · rw [if_neg inHead, Option.none_or]
        refine if_congr ?_ rfl rfl
        unfold InRange at inHead ⊢
        omega

section Layouts

variable {layout : List Range} {buffer : List α}

/-- Slices that arrive in order make up a stretch of the buffer. -/
theorem flatMap_slice_of_inOrder
    {start : Nat}
    (inOrder : InOrder start layout) :
    layout.flatMap (fun range => (range.slice buffer).content) =
      (buffer.drop start).take (extent layout) := by
  induction layout generalizing start with
  | nil => simp
  | cons range rest inductionHypothesis =>
      obtain ⟨begins, later⟩ := inOrder
      rw [List.flatMap_cons, inductionHypothesis later, extent_cons,
        List.take_add, List.drop_drop]
      by_cases empty : range.length = 0
      · simp [Range.slice, empty]
      · rw [Range.slice, begins empty]

/-- Slices that arrive in order cover everything they make up. -/
theorem covered_of_inOrder
    {start position : Nat}
    (inOrder : InOrder start layout)
    (fromStart : start ≤ position)
    (below : position < start + extent layout) :
    ∃ range ∈ layout, InRange range.offset range.length position := by
  induction layout generalizing start with
  | nil =>
      rw [extent_nil] at below
      omega
  | cons range rest inductionHypothesis =>
      obtain ⟨begins, later⟩ := inOrder
      rw [extent_cons] at below
      by_cases own : position < start + range.length
      · refine ⟨range, List.mem_cons_self, ?_⟩
        have offset := begins (by omega)
        exact ⟨by omega, by omega⟩
      · obtain ⟨other, listed, covers⟩ := inductionHypothesis later
          (Nat.le_of_not_lt own) (by omega)
        exact ⟨other, List.mem_cons_of_mem _ listed, covers⟩

/-- Ranges of which each begins where those before it end are in order. -/
theorem inOrder_of_splits
    {start : Nat}
    (splits : ∀ before range after, layout = before ++ range :: after →
      range.length ≠ 0 → range.offset = start + extent before) :
    InOrder start layout := by
  induction layout generalizing start with
  | nil => trivial
  | cons range rest inductionHypothesis =>
      constructor
      · intro filled
        simpa using splits [] range rest rfl filled
      · refine inductionHypothesis ?_
        intro before other after split filled
        have begins := splits (range :: before) other after
          (by rw [split, List.cons_append]) filled
        rw [extent_cons] at begins
        omega

variable (fill : α)

/-- After all slices are placed, a position that one of them covers reads as in
the buffer they are from. -/
theorem getD_placeGrowAll_slices
    (within : ∀ range ∈ layout, range.finish ≤ buffer.length)
    (staged : List α)
    (position : Nat) :
    ((∃ range ∈ layout, InRange range.offset range.length position) →
        (placeGrowAll fill staged
          (layout.map fun range => range.slice buffer)).getD position fill =
            buffer.getD position fill) ∧
      ((∀ range ∈ layout, ¬InRange range.offset range.length position) →
        (placeGrowAll fill staged
          (layout.map fun range => range.slice buffer)).getD position fill =
            staged.getD position fill) := by
  induction layout generalizing staged with
  | nil => simp [placeGrowAll]
  | cons range rest inductionHypothesis =>
      have inBuffer := within range List.mem_cons_self
      obtain ⟨placed, kept⟩ := inductionHypothesis
        (fun other listed => within other (List.mem_cons_of_mem _ listed))
        (placeGrow fill staged (range.slice buffer))
      have step := getD_placeGrow fill staged (range.slice buffer) position
      have covers : (range.slice buffer).Covers position ↔
          InRange range.offset range.length position := by
        rw [Piece.Covers, Range.length_slice inBuffer]
        rfl
      rw [List.map_cons, placeGrowAll, List.foldl_cons]
      constructor
      · rintro ⟨other, listed, covered⟩
        by_cases later : ∃ other ∈ rest,
            InRange other.offset other.length position
        · exact placed later
        · push Not at later
          have own : InRange range.offset range.length position := by
            rcases List.mem_cons.mp listed with rfl | inRest
            · exact covered
            · exact absurd covered (later other inRest)
          refine (kept later).trans ?_
          rw [step, if_pos (covers.mpr own)]
          obtain ⟨starts, ends⟩ := own
          simp only [Range.slice, List.getD_eq_getElem?_getD,
            List.getElem?_take, List.getElem?_drop, if_pos (show
              position - range.offset < range.length by omega),
            Nat.add_sub_cancel' starts]
      · intro uncovered
        refine (kept fun other listed =>
          uncovered other (List.mem_cons_of_mem _ listed)).trans ?_
        rw [step, if_neg fun own =>
          uncovered range List.mem_cons_self (covers.mp own)]

/-- Slices in order that end within what was received are placed as they are
strung together. -/
theorem placeGrowAll_of_inOrder
    (within : ∀ range ∈ layout, range.finish ≤ buffer.length)
    (inOrder : InOrder 0 layout)
    (small : ∀ range ∈ layout, range.finish ≤ extent layout) :
    placeGrowAll fill [] (layout.map fun range => range.slice buffer) =
      layout.flatMap fun range => (range.slice buffer).content := by
  rw [flatMap_slice_of_inOrder inOrder, List.drop_zero]
  have lengthLe : (placeGrowAll fill []
      (layout.map fun range => range.slice buffer)).length ≤ extent layout := by
    rw [length_placeGrowAll_le_iff]
    refine ⟨Nat.zero_le _, ?_⟩
    intro piece listed
    obtain ⟨range, member, rfl⟩ := List.mem_map.mp listed
    rw [Range.finish_slice (within range member)]
    exact small range member
  have reached : ∀ position < extent layout,
      position < (placeGrowAll fill []
        (layout.map fun range => range.slice buffer)).length ∧
      position < buffer.length := by
    intro position below
    obtain ⟨range, member, covers⟩ := covered_of_inOrder inOrder
      (Nat.zero_le position) (by omega)
    have inBuffer := within range member
    have bounded := (length_placeGrowAll_le_iff fill []
      (layout.map fun range => range.slice buffer) _).mp (Nat.le_refl _)
    have ends := bounded.2 _ (List.mem_map_of_mem member)
    rw [Range.finish_slice inBuffer] at ends
    have stops := covers.2
    unfold Range.finish at ends inBuffer
    omega
  apply List.ext_getElem
  · rw [List.length_take]
    by_cases none : extent layout = 0
    · omega
    · have last := reached (extent layout - 1) (by omega)
      omega
  · intro position below inside
    have received : position < extent layout := by omega
    have placed := (getD_placeGrowAll_slices fill within [] position).1
      (covered_of_inOrder inOrder (Nat.zero_le position) (by omega))
    rw [List.getD_eq_getElem _ _ below,
      List.getD_eq_getElem _ _ (reached position received).2] at placed
    rw [placed, List.getElem_take]

/-- What is strung together is as long as the ranges together. -/
theorem length_flatMap_slice
    (within : ∀ range ∈ layout, range.finish ≤ buffer.length) :
    (layout.flatMap fun range => (range.slice buffer).content).length =
      extent layout := by
  rw [List.length_flatMap, extent]
  congr 1
  apply List.map_congr_left
  intro range member
  exact Range.length_slice (within range member)

/-- The first element of a slice that is not empty is strung where the slices
before it end. -/
theorem getD_flatMap_slice
    {before after : List Range}
    {range : Range}
    (within : ∀ other ∈ before ++ range :: after,
      other.finish ≤ buffer.length)
    (filled : range.length ≠ 0) :
    ((before ++ range :: after).flatMap fun other =>
        (other.slice buffer).content).getD (extent before) fill =
      buffer.getD range.offset fill := by
  have inBuffer := within range (by simp)
  have earlier : (before.flatMap fun other =>
      (other.slice buffer).content).length = extent before :=
    length_flatMap_slice fun other member =>
      within other (List.mem_append_left _ member)
  have length := Range.length_slice inBuffer
  rw [List.flatMap_append, List.flatMap_cons,
    List.getD_append_right _ _ _ _ (by omega), earlier, Nat.sub_self,
    List.getD_append _ _ _ _ (by omega)]
  simp [Range.slice, Nat.pos_of_ne_zero filled]

/-- Slices are placed as they are strung together, whatever the buffer holds,
exactly when they arrive in order and none ends past what was received. -/
theorem placeGrowAll_slices_iff
    {mark : α}
    (different : mark ≠ fill)
    {total : Nat}
    (within : ∀ range ∈ layout, range.finish ≤ total) :
    (∀ buffer : List α, buffer.length = total →
        placeGrowAll fill [] (layout.map fun range => range.slice buffer) =
          layout.flatMap fun range => (range.slice buffer).content) ↔
      InOrder 0 layout ∧ ∀ range ∈ layout, range.finish ≤ extent layout := by
  constructor
  · intro same
    constructor
    · apply inOrder_of_splits
      intro before range after split filled
      by_contra elsewhere
      rw [Nat.zero_add] at elsewhere
      have inTotal := within range (by rw [split]; simp)
      unfold Range.finish at inTotal
      -- a buffer that is marked at the first position of the range only
      obtain ⟨probe, probeLength, probeAt, blankAt⟩ :
          ∃ probe : List α, probe.length = total ∧
            probe.getD range.offset fill = mark ∧
            ∀ position, position ≠ range.offset →
              probe.getD position fill = fill := by
        refine ⟨(List.replicate total fill).set range.offset mark, ?_, ?_, ?_⟩
        · rw [List.length_set, List.length_replicate]
        · rw [List.getD_eq_getElem _ _ (by
            rw [List.length_set, List.length_replicate]
            omega), List.getElem_set_self]
        · intro position other
          rw [List.getD_eq_getElem?_getD,
            List.getElem?_set_ne (Ne.symm other), List.getElem?_replicate]
          split <;> rfl
      rw [← probeLength] at within
      have strung := getD_flatMap_slice fill
        (show ∀ other ∈ before ++ range :: after,
          other.finish ≤ probe.length by rw [← split]; exact within) filled
      obtain ⟨covered, uncovered⟩ := getD_placeGrowAll_slices fill within []
        (extent before)
      rw [← split, ← same probe probeLength, probeAt] at strung
      apply different
      rw [← strung]
      by_cases covers : ∃ other ∈ layout,
          InRange other.offset other.length (extent before)
      · rw [covered covers]
        exact blankAt _ (Ne.symm elsewhere)
      · push Not at covers
        rw [uncovered covers]
        rfl
    · intro range member
      have placed := same (List.replicate total fill) List.length_replicate
      have inBlank : ∀ other ∈ layout,
          other.finish ≤ (List.replicate total fill).length := by
        intro other listed
        rw [List.length_replicate]
        exact within other listed
      have length := length_flatMap_slice inBlank
      rw [← placed] at length
      have bounded := (length_placeGrowAll_le_iff fill [] _ _).mp
        (Nat.le_of_eq length)
      have ends := bounded.2 _ (List.mem_map_of_mem member)
      rw [Range.finish_slice (inBlank range member)] at ends
      exact ends
  · rintro ⟨inOrder, small⟩ buffer length
    subst length
    exact placeGrowAll_of_inOrder fill within inOrder small

end Layouts

end Tiling
end TurboAccess
