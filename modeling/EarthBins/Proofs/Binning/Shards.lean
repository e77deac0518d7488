/-
A merge by shards is the merge in one go.

The output bin of a number is worked out from the completed bins of that
number alone (`outputOf`), and the merge tabulates it. A shard keeps all
bins of its numbers, in their order, and none of the others, so its merge
tabulates the same function on its numbers and nothing elsewhere. The
numbers of two shards are different remainders: whichever way the maps of
the shards are put together, the function they tabulate together is that of
the whole merge.

# Failing

A merge fails where a completed bin is too short for the panel, and in no
other way, so it also makes no difference which of several such bins is met
first.
-/
import EarthBins.Proofs.Binning.Tables
import EarthBins.Proofs.Panel.Phases

namespace EarthBins

open Outcome

variable {α : Type} [Scalar α]

-- ============================================================ one merge

/-- How completed bins are grouped: by number, those without observations
left out. -/
def runRule (panel : Panel α) :
    GroupRule (PassBin α) (Scratch α × RunBin α) where
  key b := if b.numObs = 0 then none else some b.index
  fresh k := panel.createRunBin (Scratch.empty k)
  step b entry := panel.addPass b entry.1 entry.2

/-- The output bin of a number, if one of the completed bins has it. -/
def outputOf (panel : Panel α) (bins : List (PassBin α)) (k : Nat) :
    Except Error (Option (OutputBin α)) :=
  (runRule panel).groupOf k bins >>= mapEntry (RunBinner.finishBin panel)

theorem runRule_key_eq_some {panel : Panel α} {b : PassBin α} {k : Nat} :
    (runRule panel).key b = some k ↔ b.numObs ≠ 0 ∧ b.index = k := by
  show (if b.numObs = 0 then none else some b.index) = some k ↔ _
  by_cases h : b.numObs = 0
  · simp [h]
  · simp [h]

theorem add_eq_place (panel : Panel α) (b : RunBinner α) (pass : PassBin α) :
    b.add panel pass
      = RunBinner.mk <$> (runRule panel).place b.bins pass := by
  unfold RunBinner.add GroupRule.place
  by_cases h : pass.numObs = 0
  · have key : (runRule panel).key pass = none := if_pos h
    rw [if_pos h, key]
    rfl
  · have key : (runRule panel).key pass = some pass.index := if_neg h
    have current : b.bin panel pass.index
        = b.bins[pass.index]?.elim ((runRule panel).fresh pass.index)
            .ok := by
      unfold RunBinner.bin
      cases b.bins[pass.index]? with
      | none => rfl
      | some entry => rfl
    rw [if_neg h, key, current]
    dsimp only
    cases b.bins[pass.index]?.elim ((runRule panel).fresh pass.index) .ok with
    | error e => rfl
    | ok entry =>
        rw [ok_bind, ok_bind]
        show (panel.addPass pass entry.1 entry.2 >>= fun entry =>
            pure ⟨b.bins.insert pass.index entry⟩)
          = RunBinner.mk <$> (panel.addPass pass entry.1 entry.2
            >>= fun entry => pure (b.bins.insert pass.index entry))
        cases panel.addPass pass entry.1 entry.2 with
        | error e => rfl
        | ok entry => rfl

theorem addAll_eq_place (panel : Panel α) (b : RunBinner α)
    (bins : List (PassBin α)) :
    b.addAll panel bins
      = RunBinner.mk <$> bins.foldlM (runRule panel).place b.bins := by
  unfold RunBinner.addAll
  induction bins generalizing b with
  | nil => rfl
  | cons pass bins ih =>
      rw [List.foldlM_cons, List.foldlM_cons, add_eq_place]
      cases (runRule panel).place b.bins pass with
      | error e => rfl
      | ok m => exact ih ⟨m⟩

/-- A merge places the completed bins and finishes every group. -/
theorem mergePasses_eq (panel : Panel α) (bins : List (PassBin α)) :
    mergePasses panel bins
      = bins.foldlM (runRule panel).place ∅
          >>= mapGroups (RunBinner.finishBin panel) := by
  unfold mergePasses
  rw [addAll_eq_place]
  show RunBinner.mk <$> bins.foldlM (runRule panel).place ∅ >>= _ = _
  cases bins.foldlM (runRule panel).place ∅ with
  | error e => rfl
  | ok m => rfl

/-- A merge tabulates the output bins. -/
theorem mergePasses_tabulates (panel : Panel α) (bins : List (PassBin α)) :
    Tabulates (mergePasses panel bins) (outputOf panel bins) := by
  rw [mergePasses_eq]
  exact (Tabulates.place (runRule panel) bins).bind_mapGroups _

-- ======================================================== one output bin

section Outputs

variable [LawfulIndex α] (panel : Panel α)

/-- Working out an output bin succeeds, or meets a completed bin that is
too short. -/
theorem outputOf_cases (bad : Error → Prop) (bins : List (PassBin α))
    (k : Nat)
    (short : ∀ b ∈ bins, b.numObs ≠ 0 → b.index = k →
      b.features.length < panel.totalWidth .spatial → bad .outOfBounds) :
    (∃ o, outputOf panel bins k = .ok o)
    ∨ ∃ e, outputOf panel bins k = .error e ∧ bad e := by
  have start : ∃ g, (runRule panel).fresh k = .ok g
      ∧ g.2.features.length = panel.totalWidth .temporal := by
    obtain ⟨s, v, hs, hv, -⟩ := panel.createRunBin_isOk (Scratch.empty k)
    exact ⟨_, hs, hv⟩
  have keep : ∀ b ∈ bins, (runRule panel).key b = some k →
      ∀ g : Scratch α × RunBin α,
        g.2.features.length = panel.totalWidth .temporal →
        (∃ g', (runRule panel).step b g = .ok g'
          ∧ g'.2.features.length = panel.totalWidth .temporal)
        ∨ ∃ e, (runRule panel).step b g = .error e ∧ bad e := by
    intro b hb hk g hg
    obtain ⟨counts, index⟩ := runRule_key_eq_some.mp hk
    -- a completed bin is folded if it is long enough, and refused if not
    by_cases enough : panel.totalWidth .spatial ≤ b.features.length
    · obtain ⟨s, v, hs, hv⟩ := Panel.addPass_isOk enough g.1 hg
      exact Or.inl ⟨_, hs, hv⟩
    · have lacking := Nat.lt_of_not_le enough
      exact Or.inr ⟨.outOfBounds, Panel.addPass_short lacking g.1 hg,
        short b hb counts index lacking⟩
  unfold outputOf GroupRule.groupOf
  rcases GroupRule.foldlM_visit_cases start keep (o := none) (by simp)
    with ⟨o, ho, good⟩ | ⟨e, he, hbad⟩
  · rw [ho, ok_bind]
    cases o with
    | none => exact Or.inl ⟨none, rfl⟩
    | some g =>
        obtain ⟨out, hout⟩ := Panel.finish_isOk g.1 (good g rfl)
        refine Or.inl ⟨some out, ?_⟩
        show some <$> RunBinner.finishBin panel (g.1, g.2) = _
        rw [hout, map_ok]
  · rw [he, error_bind]
    exact Or.inr ⟨e, rfl, hbad⟩

/-- An output bin cannot be worked out in one way only. -/
theorem eq_outOfBounds_of_outputOf {bins : List (PassBin α)} (k : Nat)
    (e : Error) (h : outputOf panel bins k = .error e) : e = .outOfBounds := by
  rcases outputOf_cases panel (· = .outOfBounds) bins k
    (fun _ _ _ _ _ => rfl) with ⟨o, ho⟩ | ⟨e', he', hbad⟩
  · rw [ho] at h
    cases h
  · rw [he'] at h
    cases h
    exact hbad

/-- From completed bins as wide as the panel every output bin can be worked
out. -/
theorem outputOf_isOk {bins : List (PassBin α)}
    (wide : ∀ b ∈ bins, b.numObs ≠ 0 →
      panel.totalWidth .spatial ≤ b.features.length) (k : Nat) :
    ∃ o, outputOf panel bins k = .ok o := by
  rcases outputOf_cases panel (fun _ => False) bins k
    (fun b hb counts _ lacking =>
      absurd (wide b hb counts) (Nat.not_le.mpr lacking))
    with hok | ⟨e, -, impossible⟩
  · exact hok
  · exact impossible.elim

end Outputs

-- =============================================================== shards

/-- The merge of one of `n` shards. -/
def mergeShard (panel : Panel α) (n : Nat) (bins : List (PassBin α))
    (shard : Nat) : Except Error (OutputMap α) :=
  mergePasses panel (bins.filter fun b => b.index % n == shard)

/-- A function of numbers kept to some shards. -/
def onShards {γ : Type} (n : Nat) (shards : List Nat)
    (f : Nat → Except Error (Option γ)) (k : Nat) :
    Except Error (Option γ) :=
  if k % n ∈ shards then f k else .ok none

/-- The output bins of a shard are those of its numbers. -/
theorem outputOf_filter (panel : Panel α) (n : Nat)
    (bins : List (PassBin α)) (shard k : Nat) :
    outputOf panel (bins.filter fun b => b.index % n == shard) k
      = onShards n [shard] (outputOf panel bins) k := by
  unfold outputOf onShards GroupRule.groupOf
  -- the shard of `k` keeps all bins of `k`, any other keeps none
  by_cases own : k % n = shard
  · have keep : ∀ b ∈ bins, (runRule panel).key b = some k →
        (b.index % n == shard) = true := by
      intro b _ hk
      rw [(runRule_key_eq_some.mp hk).2, own, beq_self_eq_true]
    rw [GroupRule.foldlM_visit_filter keep, if_pos (by simp [own])]
  · have other : ∀ b ∈ bins.filter fun b => b.index % n == shard,
        (runRule panel).key b ≠ some k := by
      intro b hb hk
      have index := (List.mem_filter.mp hb).2
      rw [(runRule_key_eq_some.mp hk).2, beq_iff_eq] at index
      exact own index
    rw [GroupRule.foldlM_visit_of_ne other, if_neg (by simp [own])]
    rfl

theorem mergeShard_tabulates (panel : Panel α) (n : Nat)
    (bins : List (PassBin α)) (shard : Nat) :
    Tabulates (mergeShard panel n bins shard)
      (onShards n [shard] (outputOf panel bins)) := by
  rw [← funext (outputOf_filter panel n bins shard)]
  exact mergePasses_tabulates panel _

/-- An order and a bracketing in which the maps of shards are put
together. -/
inductive ShardTree where
  /-- The map without bins. -/
  | empty
  /-- The map of one shard. -/
  | shard (number : Nat)
  /-- The entries of the second map put into the first. -/
  | extend (first second : ShardTree)

namespace ShardTree

/-- The shards that are put together, from first to last. -/
def shards : ShardTree → List Nat
  | empty => []
  | shard number => [number]
  | extend first second => first.shards ++ second.shards

/-- The map that comes of it. -/
def combine (maps : Nat → Except Error (OutputMap α)) :
    ShardTree → Except Error (OutputMap α)
  | empty => .ok ∅
  | shard number => maps number
  | extend first second => do
    let a ← first.combine maps
    let b ← second.combine maps
    return a.insertMany b.toList

/-- One shard after the other. -/
def inTurn (shards : List Nat) : ShardTree :=
  shards.foldl (fun tree number => extend tree (shard number)) empty

theorem shards_foldl (numbers : List Nat) (tree : ShardTree) :
    (numbers.foldl (fun tree number => extend tree (shard number))
      tree).shards = tree.shards ++ numbers := by
  induction numbers generalizing tree with
  | nil => exact (List.append_nil _).symm
  | cons number numbers ih =>
      rw [List.foldl_cons, ih]
      show tree.shards ++ [number] ++ numbers = _
      rw [List.append_assoc]
      rfl

omit [Scalar α] in
/-- However maps of different shards are put together, the outcome
tabulates the function on all their numbers. -/
theorem combine_tabulates {n : Nat} {maps : Nat → Except Error (OutputMap α)}
    {f : Nat → Except Error (Option (OutputBin α))}
    (h : ∀ s, Tabulates (maps s) (onShards n [s] f))
    {tree : ShardTree} (distinct : tree.shards.Nodup) :
    Tabulates (tree.combine maps) (onShards n tree.shards f) := by
  induction tree with
  | empty => exact Tabulates.empty
  | shard number => exact h number
  | extend first second ih ih' =>
      obtain ⟨hfirst, hsecond, apart⟩ := List.nodup_append.mp distinct
      have whole : ∀ k, onShards n (extend first second).shards f k
          = if k % n ∈ first.shards ∨ k % n ∈ second.shards then f k
            else .ok none :=
        fun k => if_congr List.mem_append rfl rfl
      refine (ih hfirst).union (ih' hsecond) ?_ ?_ ?_
      · intro k hk
        rw [whole]
        unfold onShards at hk ⊢
        by_cases mine : k % n ∈ first.shards
        · rw [if_pos mine, if_pos (Or.inl mine)]
        · by_cases yours : k % n ∈ second.shards
          · rw [if_pos yours] at hk
            rw [if_neg mine, if_pos (Or.inr yours), hk]
          · rw [if_neg mine, if_neg (not_or.mpr ⟨mine, yours⟩)]
      · intro k hk
        rw [whole]
        unfold onShards at hk ⊢
        by_cases yours : k % n ∈ second.shards
        · rw [if_pos yours, if_pos (Or.inr yours)]
        · by_cases mine : k % n ∈ first.shards
          · rw [if_pos mine] at hk
            rw [if_neg yours, if_pos (Or.inl mine), hk]
          · rw [if_neg yours, if_neg (not_or.mpr ⟨mine, yours⟩)]
      · intro k
        unfold onShards
        by_cases mine : k % n ∈ first.shards
        · exact Or.inr (if_neg fun yours => apart _ mine _ yours rfl)
        · exact Or.inl (if_neg mine)

omit [Scalar α] in
/-- Maps computed first and put together in turn. -/
theorem combine_foldl (maps : Nat → Except Error (OutputMap α))
    (numbers : List Nat) (tree : ShardTree) :
    (numbers.foldl (fun tree number => extend tree (shard number))
        tree).combine maps
      = (do
        let a ← tree.combine maps
        let parts ← numbers.mapM maps
        return parts.foldl (fun a b => a.insertMany b.toList) a) := by
  induction numbers generalizing tree with
  | nil =>
      show tree.combine maps = _
      cases tree.combine maps with
      | error e => rfl
      | ok a => rfl
  | cons number numbers ih =>
      rw [List.foldl_cons, ih, List.mapM_cons]
      show ((do
        let a ← tree.combine maps
        let b ← maps number
        return a.insertMany b.toList) >>= _) = _
      cases tree.combine maps with
      | error e => rfl
      | ok a =>
          cases maps number with
          | error e => rfl
          | ok b =>
              cases numbers.mapM maps with
              | error e => rfl
              | ok parts => rfl

end ShardTree

theorem mergeSharded_eq_combine (panel : Panel α) (n : Nat)
    (bins : List (PassBin α)) :
    mergeSharded panel n bins
      = (ShardTree.inTurn (List.range n)).combine (mergeShard panel n bins) := by
  unfold ShardTree.inTurn
  rw [ShardTree.combine_foldl]
  rfl

/-- The numbers in the map of a shard leave its remainder. -/
theorem mod_eq_of_mem_mergeShard {panel : Panel α} {n : Nat}
    {bins : List (PassBin α)} {shard k : Nat} {m : OutputMap α}
    (h : mergeShard panel n bins shard = .ok m) (hk : k ∈ m) :
    k % n = shard := by
  have entry := (mergeShard_tabulates panel n bins shard).entries h k
  by_contra other
  rw [onShards, if_neg (by simpa using other)] at entry
  rw [Std.ExtTreeMap.mem_iff_isSome_getElem?, ← Except.ok.inj entry] at hk
  cases hk

/-- The maps of all shards, put together in any order and bracketing, are
the whole merge. -/
theorem combine_eq_mergePasses [LawfulIndex α] (panel : Panel α) {n : Nat}
    (hn : 0 < n) (bins : List (PassBin α)) {tree : ShardTree}
    (once : tree.shards.Perm (List.range n)) :
    tree.combine (mergeShard panel n bins) = mergePasses panel bins := by
  have table := ShardTree.combine_tabulates
    (mergeShard_tabulates panel n bins)
    (once.nodup_iff.mpr List.nodup_range)
  -- every number has its remainder among the shards
  have everywhere : onShards n tree.shards (outputOf panel bins)
      = outputOf panel bins := by
    funext k
    refine if_pos (once.mem_iff.mpr ?_)
    exact List.mem_range.mpr (Nat.mod_lt k hn)
  rw [everywhere] at table
  exact table.unique (mergePasses_tabulates panel bins)
    (eq_outOfBounds_of_outputOf panel)

/-- The split merge is the whole merge. -/
theorem mergeSharded_eq_mergePasses [LawfulIndex α] (panel : Panel α)
    {n : Nat} (hn : 0 < n) (bins : List (PassBin α)) :
    mergeSharded panel n bins = mergePasses panel bins := by
  rw [mergeSharded_eq_combine]
  refine combine_eq_mergePasses panel hn bins (List.Perm.of_eq ?_)
  exact ShardTree.shards_foldl _ _

/-- Folding lists of completed bins in turn folds them on end. -/
theorem foldlM_addAll (panel : Panel α) (passes : List (List (PassBin α)))
    (b : RunBinner α) :
    passes.foldlM (RunBinner.addAll panel) b
      = b.addAll panel passes.flatten := by
  induction passes generalizing b with
  | nil => rfl
  | cons pass passes ih =>
      rw [List.foldlM_cons, List.flatten_cons, RunBinner.addAll,
        RunBinner.addAll, List.foldlM_append]
      exact bind_congr ih

/-- One merge that is fed the passes in turn. -/
def mergeInTurn (panel : Panel α) (passes : List (List (PassBin α))) :
    Except Error (OutputMap α) := do
  (← passes.foldlM (RunBinner.addAll panel) RunBinner.empty).finish panel

theorem mergeInTurn_eq (panel : Panel α)
    (passes : List (List (PassBin α))) :
    mergeInTurn panel passes = mergePasses panel passes.flatten := by
  unfold mergeInTurn mergePasses
  rw [foldlM_addAll]

/-- However the completed bins of passes are merged by shards, each shard
on its own and the maps put together in any order and bracketing, the
outcome is that of one merge fed all passes in turn, and so is that of the
split merge. No number is in the maps of two shards. Bins as wide as the
panel can be merged. -/
theorem combine_eq_mergeInTurn (panel : Panel Float)
    (passes : List (List (PassBin Float))) {n : Nat} (hn : 0 < n)
    {tree : ShardTree} (once : tree.shards.Perm (List.range n)) :
    tree.combine (mergeShard panel n passes.flatten)
      = mergeInTurn panel passes
    ∧ mergeSharded panel n passes.flatten = mergeInTurn panel passes
    ∧ (∀ s t ms mt, mergeShard panel n passes.flatten s = .ok ms →
      mergeShard panel n passes.flatten t = .ok mt →
      ∀ k, k ∈ ms → k ∈ mt → s = t)
    ∧ ((∀ b ∈ passes.flatten, b.numObs ≠ 0 →
        panel.totalWidth .spatial ≤ b.features.length) →
      ∃ m, mergeInTurn panel passes = .ok m) := by
  rw [mergeInTurn_eq]
  refine ⟨combine_eq_mergePasses panel hn _ once,
    mergeSharded_eq_mergePasses panel hn _, ?_, ?_⟩
  · intro s t ms mt hs ht k hks hkt
    rw [← mod_eq_of_mem_mergeShard hs hks, ← mod_eq_of_mem_mergeShard ht hkt]
  · intro wide
    exact (mergePasses_tabulates panel _).isOk (outputOf_isOk panel wide)

/-- The extrema of one variable. -/
def extremaPanel : Panel Float where
  statistics := [.extrema ⟨"a", 0⟩]
  nonempty := List.cons_ne_nil _ _
  nodup_output := by decide +kernel

/-- Two shards, the second one first. -/
def swappedShards : ShardTree :=
  .extend (.shard 1) (.extend .empty (.shard 0))

/-- Two passes over bins of both shards, one bin twice and one bin empty in
one of them. -/
def twoPasses : List (List (PassBin Float)) :=
  [[⟨3, 1, [1, 2]⟩, ⟨4, 2, [0, 5]⟩], [⟨5, 0, [9, 9]⟩, ⟨3, 1, [-1, 7]⟩]]

/-- The two passes merged by shards in swapped order. -/
theorem combine_swappedShards : ∃ m,
    mergeInTurn extremaPanel twoPasses = .ok m
    ∧ swappedShards.combine (mergeShard extremaPanel 2 twoPasses.flatten)
      = .ok m
    ∧ m.keys = [3, 4] := by
  have once : swappedShards.shards.Perm (List.range 2) := by decide
  obtain ⟨combined, -, -, total⟩ :=
    combine_eq_mergeInTurn extremaPanel twoPasses (by decide) once
  obtain ⟨m, hm⟩ := total (by decide +kernel)
  have keys : (mergeInTurn extremaPanel twoPasses).toOption.map (·.keys)
      = some [3, 4] := by
    decide +kernel
  rw [hm] at keys
  exact ⟨m, hm, by rw [combined, hm], Option.some.inj keys⟩

end EarthBins
