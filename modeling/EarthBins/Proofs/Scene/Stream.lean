/-
A stream keeps its promise: whatever a reader asks and in whatever order,
it is given the observations of the scene one by one, each of them once,
and after the last one nothing but the end.

# The invariant

`owed` reads off a stream what it still has to deliver: the observation
fetched ahead, if there is one, and those at the points it has not yet
looked at. Asking whether there is a next one moves an observation from
the points to the look-ahead and leaves `owed` as it is; taking one removes
the head of `owed`. The look-ahead is nowhere else in the argument: a run
of calls is a walk along one list.

# Collecting

The list a reader gets by simply collecting a fresh stream is what that
stream owes. It is deduced from the collecting itself (`owed_of_take`),
not from the scene: a stream that delivered fewer observations than it was
asked for has come to its end.
-/
import EarthBins.Proofs.Scene.Raster

namespace EarthBins

open Outcome

variable {α : Type} [Scalar α]

-- ================================================== the points ahead

/-- The observation found first lies among the points searched. -/
theorem Scene.firstFrom_bounds {s : Scene α} {sampling : Sampling}
    {left n next : Nat} {o : Observation α}
    (h : s.firstFrom sampling left n = .ok (some (o, next))) :
    n < next ∧ next ≤ n + left := by
  induction left generalizing n with
  | zero => cases h
  | succ left ih =>
      simp only [firstFrom] at h
      cases ho : s.observationAt? (sampling.point n) with
      | error e => rw [ho] at h; cases h
      | ok found =>
          rw [ho] at h
          cases found with
          | some a =>
              injection h with h
              injection h with h
              injection h with _ hn
              omega
          | none =>
              have := ih h
              omega

/-- The observations ahead are the first one and those behind it. -/
theorem Scene.observationsFrom_eq_firstFrom (s : Scene α)
    (sampling : Sampling) (left n : Nat) :
    s.observationsFrom sampling left n
      = (do
        match ← s.firstFrom sampling left n with
        | some (o, next) =>
          return o :: (← s.observationsFrom sampling (left + n - next) next)
        | none => return []) := by
  induction left generalizing n with
  | zero => rfl
  | succ left ih =>
      simp only [observationsFrom, firstFrom]
      cases ho : s.observationAt? (sampling.point n) with
      | error e => rfl
      | ok found =>
          cases found with
          | some a =>
              show _ = (do return a :: (← s.observationsFrom sampling
                (left + 1 + n - (n + 1)) (n + 1)))
              rw [show left + 1 + n - (n + 1) = left by omega]
              rfl
          | none =>
              show s.observationsFrom sampling left (n + 1) = _
              rw [ih, show left + (n + 1) = left + 1 + n by omega]
              rfl

namespace ObservationStream

-- ====================================================== what is owed

/-- The observations at the points a stream has not yet looked at. -/
def unread (s : ObservationStream α) : Except Error (List (Observation α)) :=
  s.scene.observationsFrom s.sampling (s.sampling.size - s.next) s.next

/-- The observations a stream still has to deliver. -/
def owed (s : ObservationStream α) : Except Error (List (Observation α)) :=
  match s.ahead with
  | .ready => s.unread
  | .peeked o => (o :: ·) <$> s.unread
  | .exhausted => .ok []

/-- A bound on the deliveries that are left: one for each point ahead and
one for the observation fetched. -/
def credit (s : ObservationStream α) : Nat :=
  s.sampling.size - s.next +
    match s.ahead with
    | .peeked _ => 1
    | _ => 0

theorem unread_of_fetch_some {s t : ObservationStream α}
    {o : Observation α} (h : s.fetch = .ok (some o, t)) :
    s.unread = (o :: ·) <$> t.unread ∧ t.ahead = s.ahead
      ∧ t.sampling.size - t.next < s.sampling.size - s.next := by
  simp only [fetch, bind_eq_ok] at h
  obtain ⟨found, hf, h⟩ := h
  cases found with
  | none => cases h
  | some found =>
      obtain ⟨a, next⟩ := found
      cases h
      have bounds := Scene.firstFrom_bounds hf
      refine ⟨?_, rfl, ?_⟩
      · simp only [unread]
        rw [Scene.observationsFrom_eq_firstFrom, hf]
        show (do return o :: (← s.scene.observationsFrom s.sampling
          (s.sampling.size - s.next + s.next - next) next)) = _
        rw [show s.sampling.size - s.next + s.next - next
          = s.sampling.size - next by omega]
        rfl
      · show s.sampling.size - next < s.sampling.size - s.next
        omega

theorem unread_of_fetch_none {s t : ObservationStream α}
    (h : s.fetch = .ok (none, t)) : s.unread = .ok [] := by
  simp only [fetch, bind_eq_ok] at h
  obtain ⟨found, hf, h⟩ := h
  cases found with
  | some found => cases h
  | none =>
      simp only [unread]
      rw [Scene.observationsFrom_eq_firstFrom, hf]
      rfl

/-- A fetch fails only where the points ahead cannot be read. -/
theorem unread_of_fetch_error {s : ObservationStream α} {e : Error}
    (h : s.fetch = .error e) : s.unread = .error e := by
  simp only [fetch, bind_eq_error] at h
  obtain hf | ⟨found, hf, h⟩ := h
  · simp only [unread]
    rw [Scene.observationsFrom_eq_firstFrom, hf]
    rfl
  · cases found <;> cases h

-- ================================================== what a call does

/-- Taking from a stream that owes nothing answers with the end. -/
theorem nextObservation_of_owed_nil {s : ObservationStream α}
    (h : s.owed = .ok []) :
    ∃ t, s.nextObservation = .ok (.error .exhausted, t)
      ∧ t.owed = .ok [] := by
  cases ha : s.ahead with
  | exhausted =>
      refine ⟨s, ?_, h⟩
      simp only [nextObservation, ha]
      rfl
  | peeked o =>
      simp only [owed, ha, map_eq_ok] at h
      obtain ⟨l, -, hl⟩ := h
      cases hl
  | ready =>
      simp only [owed, ha] at h
      cases hf : s.fetch with
      | error e =>
          rw [unread_of_fetch_error hf] at h
          cases h
      | ok found =>
          obtain ⟨found, t⟩ := found
          cases found with
          | some o =>
              rw [(unread_of_fetch_some hf).1, map_eq_ok] at h
              obtain ⟨l, -, hl⟩ := h
              cases hl
          | none =>
              refine ⟨{ t with ahead := .exhausted }, ?_, rfl⟩
              simp only [nextObservation, ha, hf, ok_bind]
              rfl

/-- Taking from a stream that owes something answers with the head of
it. -/
theorem nextObservation_of_owed_cons {s : ObservationStream α}
    {o : Observation α} {l : List (Observation α)}
    (h : s.owed = .ok (o :: l)) :
    ∃ t, s.nextObservation = .ok (.ok o, t) ∧ t.owed = .ok l := by
  cases ha : s.ahead with
  | exhausted =>
      simp only [owed, ha] at h
      cases h
  | peeked a =>
      simp only [owed, ha, map_eq_ok] at h
      obtain ⟨l', hl, h⟩ := h
      cases h
      refine ⟨{ s with ahead := .ready }, ?_, hl⟩
      simp only [nextObservation, ha]
      rfl
  | ready =>
      simp only [owed, ha] at h
      cases hf : s.fetch with
      | error e =>
          rw [unread_of_fetch_error hf] at h
          cases h
      | ok found =>
          obtain ⟨found, t⟩ := found
          cases found with
          | none =>
              rw [unread_of_fetch_none hf] at h
              cases h
          | some a =>
              obtain ⟨hu, hta, -⟩ := unread_of_fetch_some hf
              rw [hu, map_eq_ok] at h
              obtain ⟨l', hl, h⟩ := h
              cases h
              refine ⟨t, ?_, ?_⟩
              · simp only [nextObservation, ha, hf, ok_bind]
                rfl
              · simp only [owed, hta, ha, hl]

theorem hasNext_of_owed {s : ObservationStream α}
    {l : List (Observation α)} (h : s.owed = .ok l) :
    ∃ t, s.hasNext = .ok (decide (0 < l.length), t) ∧ t.owed = .ok l := by
  cases ha : s.ahead with
  | exhausted =>
      have hl : [] = l := by
        simp only [owed, ha] at h
        exact Except.ok.inj h
      subst hl
      refine ⟨s, ?_, h⟩
      simp only [hasNext, ha]
      rfl
  | peeked o =>
      refine ⟨s, ?_, h⟩
      simp only [owed, ha, map_eq_ok] at h
      obtain ⟨l', -, hl⟩ := h
      subst hl
      simp only [hasNext, ha, List.length_cons, Nat.zero_lt_succ,
        decide_true]
      rfl
  | ready =>
      simp only [owed, ha] at h
      cases hf : s.fetch with
      | error e =>
          rw [unread_of_fetch_error hf] at h
          cases h
      | ok found =>
          obtain ⟨found, t⟩ := found
          cases found with
          | none =>
              rw [unread_of_fetch_none hf] at h
              cases h
              refine ⟨{ t with ahead := .exhausted }, ?_, rfl⟩
              simp only [hasNext, ha, hf, ok_bind]
              rfl
          | some a =>
              rw [(unread_of_fetch_some hf).1] at h
              refine ⟨{ t with ahead := .peeked a }, ?_, h⟩
              rw [map_eq_ok] at h
              obtain ⟨l', -, hl⟩ := h
              subst hl
              simp only [hasNext, ha, hf, ok_bind, List.length_cons,
                Nat.zero_lt_succ, decide_true]
              rfl

-- ======================================================== collecting

/-- An observation taken was the head of what was owed, and is paid for
with a unit of credit. -/
theorem owed_of_taken {s t : ObservationStream α} {o : Observation α}
    (h : s.nextObservation = .ok (.ok o, t)) :
    s.owed = (o :: ·) <$> t.owed ∧ t.credit < s.credit := by
  cases ha : s.ahead with
  | exhausted =>
      simp only [nextObservation, ha] at h
      cases h
  | peeked a =>
      simp only [nextObservation, ha] at h
      cases h
      refine ⟨by simp only [owed, ha, unread], ?_⟩
      simp only [credit, ha]
      omega
  | ready =>
      simp only [nextObservation, ha, bind_eq_ok] at h
      obtain ⟨⟨found, r⟩, hf, h⟩ := h
      cases found with
      | none => cases h
      | some a =>
          cases h
          obtain ⟨hu, hta, hlt⟩ := unread_of_fetch_some hf
          refine ⟨by simp only [owed, hta, ha, hu], ?_⟩
          simp only [credit, hta, ha]
          omega

/-- A stream that answers with the end owed nothing. -/
theorem owed_of_end {s t : ObservationStream α} {e : Error}
    (h : s.nextObservation = .ok (.error e, t)) : s.owed = .ok [] := by
  cases ha : s.ahead with
  | exhausted => simp only [owed, ha]
  | peeked a =>
      simp only [nextObservation, ha] at h
      cases h
  | ready =>
      simp only [nextObservation, ha, bind_eq_ok] at h
      obtain ⟨⟨found, r⟩, hf, h⟩ := h
      cases found with
      | some a => cases h
      | none => simp only [owed, ha, unread_of_fetch_none hf]

/-- A stream delivers no more than its credit, and one that delivers less
than it was asked for delivers all it owes. -/
theorem owed_of_take {n : Nat} {s t : ObservationStream α}
    {l : List (Observation α)} (h : s.take n = .ok (l, t)) :
    l.length ≤ s.credit ∧ (l.length < n → s.owed = .ok l) := by
  induction n generalizing s l with
  | zero =>
      cases h
      exact ⟨Nat.zero_le _, fun hlt => absurd hlt (Nat.not_lt_zero _)⟩
  | succ n ih =>
      simp only [take, next?, bind_eq_ok, pure_eq_ok] at h
      obtain ⟨-, ⟨⟨taken, r⟩, hr, rfl⟩, h⟩ := h
      cases taken with
      | error e =>
          cases h
          exact ⟨Nat.zero_le _, fun _ => owed_of_end hr⟩
      | ok o =>
          simp only [Except.toOption, bind_eq_ok, pure_eq_ok] at h
          obtain ⟨⟨l', r'⟩, hl', h⟩ := h
          cases h
          obtain ⟨howed, hcredit⟩ := owed_of_taken hr
          obtain ⟨hle, hall⟩ := ih hl'
          show l'.length + 1 ≤ s.credit ∧ (l'.length + 1 < n + 1 → _)
          refine ⟨by omega, fun hlt => ?_⟩
          rw [howed, hall (by omega)]
          rfl

/-- A stream delivers what it owes from the front. -/
theorem take_of_owed {s : ObservationStream α} {l : List (Observation α)}
    (h : s.owed = .ok l) (n : Nat) :
    ∃ t, s.take n = .ok (l.take n, t) := by
  induction n generalizing s l with
  | zero => exact ⟨s, rfl⟩
  | succ n ih =>
      cases l with
      | nil =>
          obtain ⟨t, ht, -⟩ := nextObservation_of_owed_nil h
          refine ⟨t, ?_⟩
          simp only [take, next?, ht, ok_bind, pure_bind]
          rfl
      | cons o l =>
          obtain ⟨t, ht, howed⟩ := nextObservation_of_owed_cons h
          obtain ⟨u, hu⟩ := ih howed
          refine ⟨u, ?_⟩
          simp only [take, next?, ht, ok_bind, pure_bind,
            Except.toOption, hu]
          rfl

/-- What is collected from a stream is what it owed. -/
theorem owed_of_rest {s t : ObservationStream α}
    {l : List (Observation α)} (h : s.rest = .ok (l, t)) :
    s.owed = .ok l := by
  obtain ⟨hle, hall⟩ := owed_of_take h
  -- the reader asked for one more than can be left
  have bound : s.credit ≤ s.sampling.size - s.next + 1 := by
    unfold credit
    split <;> omega
  exact hall (by omega)

/-- What a stream owes is collected from it. -/
theorem rest_of_owed {s : ObservationStream α} {l : List (Observation α)}
    (h : s.owed = .ok l) : ∃ t, s.rest = .ok (l, t) := by
  -- what is owed can be delivered, so there is credit for it
  have bound : l.length ≤ s.credit := by
    obtain ⟨t, ht⟩ := take_of_owed h l.length
    have paid := (owed_of_take ht).1
    rwa [List.take_length] at paid
  have enough : s.credit ≤ s.sampling.size - s.next + 2 := by
    unfold credit
    split <;> omega
  obtain ⟨t, ht⟩ := take_of_owed h (s.sampling.size - s.next + 2)
  rw [List.take_of_length_le (by omega)] at ht
  exact ⟨t, ht⟩

theorem rest_isOk {scene : Scene α} {sampling : Sampling}
    (checked : Scene.checkRasters scene.planes scene.mask sampling.window
      = .ok ()) :
    ∃ l t, (start scene sampling).rest = .ok (l, t) := by
  obtain ⟨l, hl⟩ := Scene.observations_isOk checked
  obtain ⟨t, ht⟩ := rest_of_owed (s := start scene sampling) hl
  exact ⟨l, t, ht⟩

end ObservationStream

-- ========================================================= the calls

/-- A call on a stream. -/
inductive StreamCall where
  | hasNext
  | nextObservation
  | next
  deriving DecidableEq, Repr

/-- The answer to a call. -/
inductive StreamAnswer (α : Type) where
  | more (left : Bool)
  | observation (taken : Except Error (Observation α))
  | item (found : Option (Observation α))

/-- Whether a call takes an observation away. -/
def StreamCall.takes : StreamCall → Bool
  | .hasNext => false
  | .nextObservation => true
  | .next => true

/-- Whether an answer is one to a call that takes. -/
def StreamAnswer.isTaking : StreamAnswer α → Bool
  | .more _ => false
  | .observation _ => true
  | .item _ => true

namespace ObservationStream

/-- One call on a stream: the answer, and the stream behind it. -/
def call (s : ObservationStream α) :
    StreamCall → Except Error (StreamAnswer α × ObservationStream α)
  | .hasNext => do
    let (left, s) ← s.hasNext
    return (.more left, s)
  | .nextObservation => do
    let (taken, s) ← s.nextObservation
    return (.observation taken, s)
  | .next => do
    let (found, s) ← s.next?
    return (.item found, s)

/-- One call after the other. -/
def calls (s : ObservationStream α) : List StreamCall →
    Except Error (List (StreamAnswer α) × ObservationStream α)
  | [] => .ok ([], s)
  | c :: cs => do
    let (answer, s) ← s.call c
    let (answers, s) ← s.calls cs
    return (answer :: answers, s)

end ObservationStream

/-- The answer to a call after `k` takings, where `observations` is the
list of all there are. -/
def answerAt (observations : List (Observation α)) (k : Nat) :
    StreamCall → StreamAnswer α
  | .hasNext => .more (decide (k < observations.length))
  | .nextObservation =>
    .observation (observations[k]?.elim (.error .exhausted) .ok)
  | .next => .item observations[k]?

/-- The answers to calls that come after `k` takings. -/
def answersFrom (observations : List (Observation α)) :
    Nat → List StreamCall → List (StreamAnswer α)
  | _, [] => []
  | k, c :: cs =>
    answerAt observations k c
      :: answersFrom observations (if c.takes then k + 1 else k) cs

omit [Scalar α] in
/-- A call is answered by the number of takings before it. -/
theorem answersFrom_eq_mapIdx (observations : List (Observation α))
    (k : Nat) (cs : List StreamCall) :
    answersFrom observations k cs
      = cs.mapIdx fun i c =>
          answerAt observations (k + (cs.take i).countP (·.takes)) c := by
  induction cs generalizing k with
  | nil => rfl
  | cons c cs ih =>
      rw [answersFrom, ih, List.mapIdx_cons]
      congr 1
      refine congrArg (cs.mapIdx ·) (funext fun i => funext fun d => ?_)
      rw [List.take_succ_cons, List.countP_cons]
      congr 1
      cases c.takes <;> simp only [if_true, if_false, Bool.false_eq_true]
        <;> omega

omit [Scalar α] in
/-- The taking calls are answered as if they were the only ones. -/
theorem filter_answersFrom (observations : List (Observation α))
    (k : Nat) (cs : List StreamCall) :
    (answersFrom observations k cs).filter (·.isTaking)
      = (cs.filter (·.takes)).mapIdx fun i c =>
          answerAt observations (k + i) c := by
  induction cs generalizing k with
  | nil => rfl
  | cons c cs ih =>
      -- a taking call moves the answers behind it by one
      have shift : ∀ j, answerAt observations (k + (j + 1))
          = answerAt observations (k + 1 + j) :=
        fun j => congrArg _ (by omega)
      rw [answersFrom]
      cases c with
      | hasNext =>
          show (answersFrom observations k cs).filter _ = _
          exact ih k
      | nextObservation =>
          show _ :: (answersFrom observations (k + 1) cs).filter _
            = ((StreamCall.nextObservation :: cs.filter _).mapIdx _)
          rw [ih, List.mapIdx_cons]
          simp only [shift]
          rfl
      | next =>
          show _ :: (answersFrom observations (k + 1) cs).filter _
            = ((StreamCall.next :: cs.filter _).mapIdx _)
          rw [ih, List.mapIdx_cons]
          simp only [shift]
          rfl

namespace ObservationStream

/-- One call on a stream that owes all but the first `k` observations. -/
theorem call_of_owed {s : ObservationStream α}
    {observations : List (Observation α)} {k : Nat}
    (h : s.owed = .ok (observations.drop k)) (c : StreamCall) :
    ∃ t, s.call c = .ok (answerAt observations k c, t)
      ∧ t.owed
        = .ok (observations.drop (if c.takes then k + 1 else k)) := by
  -- a taking call sees the head of what is owed, or that there is none
  have taken : ∃ t, s.nextObservation
      = .ok (observations[k]?.elim (.error .exhausted) .ok, t)
        ∧ t.owed = .ok (observations.drop (k + 1)) := by
    by_cases hk : k < observations.length
    · rw [List.drop_eq_getElem_cons hk] at h
      obtain ⟨t, ht, howed⟩ := nextObservation_of_owed_cons h
      refine ⟨t, ?_, howed⟩
      rw [List.getElem?_eq_getElem hk]
      exact ht
    · rw [List.drop_eq_nil_of_le (by omega)] at h
      obtain ⟨t, ht, howed⟩ := nextObservation_of_owed_nil h
      refine ⟨t, ?_, ?_⟩
      · rw [List.getElem?_eq_none (by omega)]
        exact ht
      · rw [howed, List.drop_eq_nil_of_le (by omega)]
  cases c with
  | hasNext =>
      obtain ⟨t, ht, howed⟩ := hasNext_of_owed h
      refine ⟨t, ?_, howed⟩
      have hlt : (0 < (observations.drop k).length)
          = (k < observations.length) := by
        rw [List.length_drop]
        exact propext (by omega)
      simp only [call, ht, ok_bind, answerAt, hlt]
      rfl
  | nextObservation =>
      obtain ⟨t, ht, howed⟩ := taken
      refine ⟨t, ?_, howed⟩
      simp only [call, ht, ok_bind]
      rfl
  | next =>
      obtain ⟨t, ht, howed⟩ := taken
      refine ⟨t, ?_, howed⟩
      simp only [call, next?, ht, ok_bind, answerAt]
      cases observations[k]? with
      | none => rfl
      | some o => rfl

theorem calls_of_owed {s : ObservationStream α}
    {observations : List (Observation α)} {k : Nat}
    (h : s.owed = .ok (observations.drop k)) (cs : List StreamCall) :
    ∃ t, s.calls cs = .ok (answersFrom observations k cs, t) := by
  induction cs generalizing s k with
  | nil => exact ⟨s, rfl⟩
  | cons c cs ih =>
      obtain ⟨t, ht, howed⟩ := call_of_owed h c
      obtain ⟨u, hu⟩ := ih howed
      refine ⟨u, ?_⟩
      simp only [calls, ht, ok_bind, hu]
      rfl

/-- Whether a fresh stream yields just these observations when it is
simply collected. -/
def Collects (scene : Scene α) (sampling : Sampling)
    (observations : List (Observation α)) : Prop :=
  ∃ behind, (start scene sampling).rest = .ok (observations, behind)

/-- However the calls on a stream are interleaved, they are answered from
the list that a fresh copy of it yields when it is simply collected. A call
that comes after `k` takings gets the observation of number `k`, and the
end from the length of the list on; asking whether there is a next one says
whether fewer observations were taken than there are. The takings alone
decide their answers: calls that ask in between can come and go. A scene
that passed its check does yield such a list. -/
theorem calls_eq_of_collects (scene : Scene α) (sampling : Sampling) :
    (Scene.checkRasters scene.planes scene.mask sampling.window = .ok () →
      ∃ observations, Collects scene sampling observations)
    ∧ ∀ observations, Collects scene sampling observations →
      ∀ cs : List StreamCall, ∃ answers after,
        (start scene sampling).calls cs = .ok (answers, after)
        ∧ answers = cs.mapIdx (fun i c =>
            answerAt observations ((cs.take i).countP (·.takes)) c)
        ∧ answers.filter (·.isTaking)
          = (cs.filter (·.takes)).mapIdx (answerAt observations)
        ∧ ∀ others, others.filter (·.takes) = cs.filter (·.takes) →
          ∃ answers' after',
            (start scene sampling).calls others = .ok (answers', after')
            ∧ answers'.filter (·.isTaking)
              = answers.filter (·.isTaking) := by
  constructor
  · intro checked
    exact rest_isOk checked
  rintro l ⟨behind, collected⟩ cs
  have howed : (start scene sampling).owed = .ok (l.drop 0) :=
    owed_of_rest collected
  obtain ⟨after, hafter⟩ := calls_of_owed howed cs
  refine ⟨_, after, hafter, ?_, ?_, ?_⟩
  · simp only [answersFrom_eq_mapIdx, Nat.zero_add]
  · simp only [filter_answersFrom, Nat.zero_add]
  · intro others hothers
    obtain ⟨after', hafter'⟩ := calls_of_owed howed others
    refine ⟨_, after', hafter', ?_⟩
    rw [filter_answersFrom, filter_answersFrom, hothers]

/-- Two pixels of which the mask lets the first pass. -/
def maskedPair : Scene Float where
  planes := [Plane.filled 2 1 4]
  mask := some ⟨2, 1, #[1, 0], rfl⟩
  geolocation := .affine ⟨1, 1, -1, 1⟩
  timing := none

/-- One point for each of the two. -/
def pairSampling : Sampling :=
  ⟨Window.full 2 1, 1, by decide, by decide, by decide⟩

/-- The pair yields one observation, and a reader who asks, takes, asks and
takes again sees it once and then the end. -/
theorem calls_maskedPair : ∃ o answers after,
    Collects maskedPair pairSampling [o]
    ∧ (start maskedPair pairSampling).calls
        [.hasNext, .next, .hasNext, .nextObservation]
      = .ok (answers, after)
    ∧ answers = [.more true, .item (some o), .more false,
        .observation (.error .exhausted)] := by
  obtain ⟨collectable, answered⟩ :=
    calls_eq_of_collects maskedPair pairSampling
  obtain ⟨l, behind, hl⟩ := collectable rfl
  have count : ((start maskedPair pairSampling).rest.map
      (·.1.length)).toOption = some 1 := by
    decide +kernel
  rw [hl] at count
  obtain ⟨o, rfl⟩ := List.length_eq_one_iff.mp (Option.some.inj count)
  obtain ⟨answers, after, hcalls, hanswers, -⟩ :=
    answered [o] ⟨behind, hl⟩
      [.hasNext, .next, .hasNext, .nextObservation]
  exact ⟨o, answers, after, ⟨behind, hl⟩, hcalls, hanswers⟩

end ObservationStream

end EarthBins
