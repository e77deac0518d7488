/-
The cursor over sample positions as a list that is read from the front.

A cursor computes each point from its number and remembers how far it came
and where it was last. The list of all points, four loops, says the same
without numbers: a cursor that was moved `k` times has the first `k` points
behind it and the others ahead (`SampleCursor.after`). So each call is
answered from the list and from the number of moves asked for before it
(`CursorAnswer.ofPoints`), whatever calls came in between. Moves asked for
past the end fail, and behind them the cursor is where it was.

# From a call to all calls

One call takes the cursor behind `k` moves to the one behind `k` moves and
its own (`SampleCursor.call_after`); an iterator's skip is a number of moves
and one more (`SampleCursor.nth_after`). An induction over the calls carries
this through (`SampleCursor.calls_after`).
-/
import EarthBins.Proofs.Scene.Stripes

namespace EarthBins

open Scalar

-- ======================================================= all the points

namespace Sampling

variable {window : Window} {factor : Nat}

theorem length_points {α : Type} [Scalar α] (s : Sampling) :
    (s.points : List (SamplePoint α)).length = s.size := by
  rw [points_eq, List.length_map, List.length_range]

theorem getElem?_points {α : Type} [Scalar α] (s : Sampling) {n : Nat}
    (h : n < s.size) :
    (s.points : List (SamplePoint α))[n]? = some (s.point n) := by
  rw [points_eq, List.getElem?_map, List.getElem?_range h, Option.map_some]

/-- A sampling is refused for its factor or, behind that, for its number of
points, and for no other reason. -/
theorem of?_answers (window : Window) (factor : Nat) :
    (of? window factor
        = .error (.settings (.samplingFactor maxFactor factor))
      ↔ ¬ (1 ≤ factor ∧ factor ≤ 16))
    ∧ (of? window factor = .error (.input .tooManyPositions)
      ↔ (1 ≤ factor ∧ factor ≤ 16)
        ∧ 2 ^ 64 ≤ window.width * window.height * (factor * factor))
    ∧ ((∃ s, of? window factor = .ok s)
      ↔ (1 ≤ factor ∧ factor ≤ 16)
        ∧ window.width * window.height * (factor * factor) < 2 ^ 64) := by
  unfold of?
  by_cases inside : 1 ≤ factor ∧ factor ≤ 16
  · rw [dif_pos inside]
    by_cases fits : window.pixelCount * (factor * factor) < UInt64.size
    · rw [dif_pos fits]
      exact ⟨iff_of_false nofun (not_not.mpr inside),
        iff_of_false nofun fun many => many.2.not_gt fits,
        iff_of_true ⟨_, rfl⟩ ⟨inside, fits⟩⟩
    · rw [dif_neg fits]
      exact ⟨iff_of_false nofun (not_not.mpr inside),
        iff_of_true rfl ⟨inside, Nat.not_lt.mp fits⟩,
        iff_of_false nofun fun few => fits few.2⟩
  · rw [dif_neg inside]
    exact ⟨iff_of_true rfl inside, iff_of_false nofun fun h => inside h.1,
      iff_of_false nofun fun h => inside h.1⟩

/-- Each pixel of a window comes with each place of its subdivision, and
nothing comes twice. -/
theorem spotList_once (window : Window) (factor : Nat) :
    (window.spotList factor).Nodup
      ∧ ∀ row column j i, (row, column, j, i) ∈ window.spotList factor
        ↔ window.Contains column row ∧ j < factor ∧ i < factor := by
  unfold Window.spotList
  refine ⟨?_, fun row column j i => ?_⟩
  · exact (List.nodup_range' 1).product ((List.nodup_range' 1).product
      (List.nodup_range.product List.nodup_range))
  · rw [List.mem_product, List.mem_product, List.mem_product,
      List.mem_range'_1, List.mem_range'_1, List.mem_range, List.mem_range,
      Window.Contains]
    tauto

end Sampling

-- ========================================================== the calls

/-- A call on a cursor. -/
inductive CursorCall where
  | moveNext
  | next
  | nth (skipped : Nat)
  | canMove
  | current
  | len
  | sizeHint
  deriving DecidableEq, Repr

/-- How many moves a call asks for. -/
def CursorCall.moves : CursorCall → Nat
  | moveNext => 1
  | next => 1
  | nth skipped => skipped + 1
  | canMove => 0
  | current => 0
  | len => 0
  | sizeHint => 0

/-- The answer to a call. -/
inductive CursorAnswer (α : Type) where
  | moved (point : Except Error (SamplePoint α))
  | item (found : Option (SamplePoint α))
  | more (ahead : Bool)
  | number (n : Nat)
  | bounds (least : Nat) (most : Option Nat)

/-- The answer from the list of all points to a call that comes after `k`
moves were asked for. -/
def CursorAnswer.ofPoints {α : Type} (points : List (SamplePoint α)) (k : Nat) :
    CursorCall → CursorAnswer α
  | .moveNext => .moved (points[k]?.elim (.error .exhausted) .ok)
  | .next => .item points[k]?
  | .nth skipped => .item points[k + skipped]?
  | .canMove => .more (decide (k < points.length))
  | .current => .item (points.take k).getLast?
  | .len => .number points.length
  | .sizeHint => .bounds (points.length - k) (some (points.length - k))

namespace SampleCursor

variable {α : Type} [Scalar α]

/-- One call on a cursor: the answer, and the cursor behind it. -/
def call (c : SampleCursor α) : CursorCall → CursorAnswer α × SampleCursor α
  | .moveNext =>
    match c.moveNext with
    | .ok (point, c) => (.moved (.ok point), c)
    | .error e => (.moved (.error e), c)
  | .next =>
    match c.next? with
    | some (point, c) => (.item (some point), c)
    | none => (.item none, c)
  | .nth skipped =>
    let (found, c) := nth skipped c
    (.item found, c)
  | .canMove => (.more c.canMove, c)
  | .current => (.item c.current, c)
  | .len => (.number c.sampling.size, c)
  | .sizeHint => (.bounds c.remaining (some c.remaining), c)

/-- One call after the other. -/
def calls (c : SampleCursor α) :
    List CursorCall → List (CursorAnswer α) × SampleCursor α
  | [] => ([], c)
  | call :: rest =>
    let (answer, c) := c.call call
    let (answers, c) := c.calls rest
    (answer :: answers, c)

/-- The cursor that was asked to move `k` times. -/
def after (s : Sampling) (k : Nat) : SampleCursor α :=
  ⟨s, min k s.size, (s.points.take k).getLast?⟩

variable {s : Sampling} {k : Nat}

theorem start_eq : (start s : SampleCursor α) = after s 0 := by
  rw [after, List.take_zero, Nat.zero_min]
  rfl

/-- A move past the end leaves the cursor where it is. -/
theorem after_of_le {j : Nat} (h : s.size ≤ j) (le : j ≤ k) :
    (after s j : SampleCursor α) = after s k := by
  unfold after
  rw [Nat.min_eq_right h, Nat.min_eq_right (h.trans le),
    List.take_of_length_le (s.length_points.trans_le h),
    List.take_of_length_le (s.length_points.trans_le (h.trans le))]

theorem canMove_after :
    (after s k : SampleCursor α).canMove = decide (k < s.size) := by
  show decide (min k s.size < s.size) = _
  rw [decide_eq_decide]
  omega

/-- A move comes to the next point of the list, or it fails. -/
theorem next?_after :
    (after s k : SampleCursor α).next?
      = s.points[k]?.map fun point => (point, after s (k + 1)) := by
  unfold next?
  rw [canMove_after]
  by_cases h : k < s.size
  · have here := s.getElem?_points (α := α) h
    have last : (s.points.take (k + 1)).getLast?
        = some (s.point k : SamplePoint α) := by
      rw [List.take_add_one, here, Option.toList_some,
        List.getLast?_append_cons, List.getLast?_singleton]
    rw [here, decide_eq_true h, if_pos rfl, Option.map_some, after, after,
      last, Nat.min_eq_left h.le, Nat.min_eq_left h]
  · have none : (s.points : List (SamplePoint α))[k]? = none := by
      rw [List.getElem?_eq_none_iff, s.length_points]
      exact Nat.not_lt.mp h
    rw [none, decide_eq_false h]
    rfl

/-- A move that fails leaves the cursor where it is. -/
theorem after_of_none
    (h : (s.points : List (SamplePoint α))[k]? = none) (n : Nat) :
    (after s k : SampleCursor α) = after s (k + n) := by
  rw [List.getElem?_eq_none_iff, s.length_points] at h
  exact after_of_le h (Nat.le_add_right k n)

/-- All that a move can do. -/
theorem next?_cases (s : Sampling) (k : Nat) :
    (∃ point : SamplePoint α, s.points[k]? = some point
      ∧ (after s k).next? = some (point, after s (k + 1)))
    ∨ ((s.points : List (SamplePoint α))[k]? = none
      ∧ (after s k : SampleCursor α).next? = none) := by
  rw [next?_after]
  cases (s.points : List (SamplePoint α))[k]? with
  | some point => exact .inl ⟨point, rfl, rfl⟩
  | none => exact .inr ⟨rfl, rfl⟩

/-- Skipping points is moving past them. -/
theorem nth_after (n : Nat) :
    nth n (after s k : SampleCursor α)
      = (s.points[k + n]?, after s (k + (n + 1))) := by
  induction n generalizing k with
  | zero =>
      rw [nth, Nat.add_zero]
      obtain ⟨point, here, moved⟩ | ⟨gone, failed⟩ :=
          next?_cases (α := α) s k
      · rw [here, moved]
      · rw [gone, failed]
        exact congrArg (_, ·) (after_of_none gone 1)
  | succ n ih =>
      rw [nth]
      obtain ⟨point, -, moved⟩ | ⟨gone, failed⟩ :=
          next?_cases (α := α) s k
      · rw [moved]
        dsimp only
        rw [ih, Nat.add_assoc, Nat.add_assoc, Nat.add_comm 1 n,
          Nat.add_comm 1 (n + 1)]
      · have behind : s.points[k + (n + 1)]?
            = (none : Option (SamplePoint α)) := by
          rw [List.getElem?_eq_none_iff] at gone ⊢
          omega
        rw [failed, behind]
        exact congrArg (_, ·) (after_of_none gone _)

/-- A call is answered from the list, and asks for its moves. -/
theorem call_after (call : CursorCall) :
    (after s k : SampleCursor α).call call
      = (.ofPoints s.points k call, after s (k + call.moves)) := by
  cases call with
  | moveNext =>
      unfold SampleCursor.call moveNext CursorAnswer.ofPoints
      obtain ⟨point, here, moved⟩ | ⟨gone, failed⟩ :=
          next?_cases (α := α) s k
      · rw [here, moved]
        rfl
      · rw [gone, failed]
        exact congrArg (_, ·) (after_of_none gone 1)
  | next =>
      unfold SampleCursor.call CursorAnswer.ofPoints
      obtain ⟨point, here, moved⟩ | ⟨gone, failed⟩ :=
          next?_cases (α := α) s k
      · rw [here, moved]
        rfl
      · rw [gone, failed]
        exact congrArg (_, ·) (after_of_none gone 1)
  | nth skipped =>
      show (CursorAnswer.item (nth skipped (after s k)).1,
        (nth skipped (after s k)).2) = _
      rw [nth_after]
      rfl
  | canMove =>
      rw [CursorAnswer.ofPoints, s.length_points, ← canMove_after (α := α)]
      rfl
  | current => rfl
  | len =>
      rw [CursorAnswer.ofPoints, s.length_points]
      rfl
  | sizeHint =>
      have left : (after s k : SampleCursor α).remaining = s.size - k := by
        show s.size - min k s.size = _
        omega
      unfold SampleCursor.call
      rw [left, CursorAnswer.ofPoints, s.length_points]
      rfl

/-- Calls are answered by the number of moves asked for before each. -/
theorem calls_after (cs : List CursorCall) :
    (after s k : SampleCursor α).calls cs
      = (cs.mapIdx fun i call =>
          .ofPoints s.points (k + ((cs.take i).map CursorCall.moves).sum) call,
        after s (k + (cs.map CursorCall.moves).sum)) := by
  induction cs generalizing k with
  | nil => rfl
  | cons call cs ih =>
      rw [calls, call_after]
      dsimp only
      rw [ih, List.mapIdx_cons, List.map_cons, List.sum_cons]
      simp only [List.take_succ_cons, List.map_cons, List.sum_cons,
        Nat.add_assoc]
      rfl

/-- The cursor over a window in full. It is refused for a factor that is not
within 1 and 16, and else for a number of positions that does not fit 64
bits, and for no other reason. An accepted one comes to the points of four
loops, over the rows and columns of the window and the rows and columns of
the subdivision. These have each place of each pixel once, and their number
is the product of the four. No point leaves the window, so that nothing is
computed beyond its far corner, and no row is empty where a point is
computed.

However calls are mixed, each is answered from this list and from the number
`k` of moves asked for before it: moving, taking the next point or skipping
some come to the point of their number, and to the end from the length of
the list on; asking for a move says whether `k` is below this length; the
length and what is left of it are exact; and the current point is the last
of the first `k`, which stays so when moves fail. -/
theorem calls_read_points (window : Window) (factor : Nat) :
    (Sampling.of? window factor
        = .error (.settings (.samplingFactor Sampling.maxFactor factor))
      ↔ ¬ (1 ≤ factor ∧ factor ≤ 16))
    ∧ (Sampling.of? window factor = .error (.input .tooManyPositions)
      ↔ (1 ≤ factor ∧ factor ≤ 16)
        ∧ 2 ^ 64 ≤ window.width * window.height * (factor * factor))
    ∧ ((∃ s, Sampling.of? window factor = .ok s)
      ↔ (1 ≤ factor ∧ factor ≤ 16)
        ∧ window.width * window.height * (factor * factor) < 2 ^ 64)
    ∧ ∀ s, Sampling.of? window factor = .ok s →
      (s.points : List (SamplePoint α))
        = ((List.range window.height).flatMap fun row =>
            (List.range window.width).flatMap fun column =>
              (List.range factor).flatMap fun j =>
                (List.range factor).map fun i =>
                  let offset := fun place =>
                    (ofNat place + half) * (1 / ofNat factor)
                  ⟨window.x + column, window.y + row,
                    ofNat (window.x + column) + offset i,
                    ofNat (window.y + row) + offset j⟩)
      ∧ (s.points : List (SamplePoint α))
        = (window.spotList factor).map (Spot.point factor)
      ∧ ((window.spotList factor).Nodup
        ∧ ∀ row column j i, (row, column, j, i) ∈ window.spotList factor
          ↔ window.Contains column row ∧ j < factor ∧ i < factor)
      ∧ (s.points : List (SamplePoint α)).length
        = window.width * window.height * (factor * factor)
      ∧ (∀ point ∈ (s.points : List (SamplePoint α)),
        window.Contains point.x point.y)
      ∧ ∀ cs : List CursorCall,
        ((start s : SampleCursor α).calls cs).1
          = cs.mapIdx fun i call =>
            .ofPoints s.points ((cs.take i).map CursorCall.moves).sum call := by
  obtain ⟨factors, counts, accepts⟩ := Sampling.of?_answers window factor
  refine ⟨factors, counts, accepts, fun s accepted => ?_⟩
  obtain ⟨rfl, rfl⟩ := Sampling.of?_eq_ok.mp accepted
  refine ⟨rfl, s.points_eq_map, Sampling.spotList_once _ _,
    s.length_points, fun point hpoint => ?_, fun cs => ?_⟩
  · rw [Sampling.points_eq] at hpoint
    obtain ⟨n, hn, rfl⟩ := List.mem_map.mp hpoint
    exact s.contains_point (List.mem_range.mp hn)
  · rw [start_eq, calls_after]
    simp only [Nat.zero_add]

/-- A cursor over two pixels skips one, comes to the other and fails to move
on; it stays there. -/
theorem calls_read_points_pair : ∃ s, Sampling.of? ⟨5, 7, 2, 1⟩ 1 = .ok s
    ∧ ∃ west east : SamplePoint Float,
      s.points = [west, east] ∧ (west.x, east.x) = (5, 6)
      ∧ ((start s).calls
          [.current, .nth 1, .moveNext, .current, .canMove]).1
        = [.item none, .item (some east), .moved (.error .exhausted),
          .item (some east), .more false] := by
  obtain ⟨-, -, accepts, rest⟩ :=
    calls_read_points (α := Float) ⟨5, 7, 2, 1⟩ 1
  obtain ⟨s, hs⟩ := accepts.mpr (by decide)
  obtain ⟨points, -, -, -, -, answers⟩ := rest s hs
  refine ⟨s, hs, _, _, points, rfl, ?_⟩
  rw [answers, points]
  rfl

end SampleCursor

end EarthBins
