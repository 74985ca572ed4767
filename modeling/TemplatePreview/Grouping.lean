import Mathlib.Data.List.Sort
import Mathlib.Data.List.SplitBy
import Mathlib.Data.Prod.Lex

/-! Sorting by a key and cutting the result into runs that share a part of it, as
`list.sort(key=…)` followed by `itertools.groupby` does. When the keys are
distinct the result depends only on which items there are. -/
namespace TemplatePreview.Grouping

variable {α β γ : Type*} [LinearOrder β] [DecidableEq γ] {key : α → β} {group : α → γ}

/-- Stable sorting by a key. -/
def sortBy (key : α → β) (items : List α) : List α :=
  items.insertionSort fun one other => key one ≤ key other

/-- The maximal runs of neighbours with the same value. -/
def groupRuns (group : α → γ) (items : List α) : List (List α) :=
  items.splitBy fun one other => group one = group other

theorem sortBy_perm (items : List α) : (sortBy key items).Perm items := List.perm_insertionSort _ _

@[simp] theorem mem_sortBy {items : List α} {item : α} : item ∈ sortBy key items ↔ item ∈ items :=
  (sortBy_perm items).mem_iff

theorem sortBy_sorted (items : List α) : (sortBy key items).Pairwise fun one other => key one ≤ key other := by
  have total : Std.Total fun one other : α => key one ≤ key other := ⟨fun _ _ => le_total _ _⟩
  have trans : IsTrans α fun one other => key one ≤ key other := ⟨fun _ _ _ => le_trans⟩
  exact List.pairwise_insertionSort _ items

/-- Items with increasing keys are the result of sorting them from any order. -/
theorem sortBy_eq {items sorted : List α} (same : items.Perm sorted)
    (increasing : sorted.Pairwise fun one other => key one < key other) : sortBy key items = sorted := by
  have distinct : (sorted.map key).Nodup := List.pairwise_map.mpr (increasing.imp ne_of_lt)
  refine List.Perm.eq_of_pairwise ?_ (sortBy_sorted items) (increasing.imp le_of_lt)
    ((sortBy_perm items).trans same)
  intro one other left right below above
  exact List.inj_on_of_nodup_map distinct (same.mem_iff.mp (mem_sortBy.mp left)) right
    (le_antisymm below above)

/-- Non-empty runs, each of one value and no two neighbours of the same, are
found again in their concatenation. -/
theorem groupRuns_flatten {runs : List (List α)} (nonempty : [] ∉ runs)
    (alike : ∀ run ∈ runs, ∀ one ∈ run, ∀ other ∈ run, group one = group other)
    (apart : runs.Pairwise fun left right => ∀ one ∈ left, ∀ other ∈ right, group one ≠ group other) :
    groupRuns group runs.flatten = runs := by
  refine List.splitBy_flatten nonempty (fun run member => ?_) ?_
  · refine (List.pairwise_of_forall_mem_list fun one left other right => ?_).isChain
    simpa using alike run member one left other right
  · have filled : ∀ run ∈ runs, run ≠ [] := fun run member empty => nonempty (empty ▸ member)
    refine (List.Pairwise.imp_of_mem ?_ apart).isChain
    intro left right leftMember rightMember differ
    refine ⟨filled left leftMember, filled right rightMember, ?_⟩
    simpa using differ _ (List.getLast_mem _) _ (List.head_mem _)

/-- Whatever order the items come in, sorting and grouping gives their runs. -/
theorem groupRuns_sortBy {items : List α} {runs : List (List α)} (same : items.Perm runs.flatten)
    (increasing : runs.flatten.Pairwise fun one other => key one < key other) (nonempty : [] ∉ runs)
    (alike : ∀ run ∈ runs, ∀ one ∈ run, ∀ other ∈ run, group one = group other)
    (apart : runs.Pairwise fun left right => ∀ one ∈ left, ∀ other ∈ right, group one ≠ group other) :
    groupRuns group (sortBy key items) = runs := by
  rw [sortBy_eq same increasing, groupRuns_flatten nonempty alike apart]

/-- Every item is in exactly the runs it was cut into. -/
theorem flatten_groupRuns (items : List α) : (groupRuns group items).flatten = items :=
  List.flatten_splitBy _ _

/-- Distinct keys increase strictly. -/
theorem sortBy_increasing {items : List α} (distinct : (items.map key).Nodup) :
    (sortBy key items).Pairwise fun one other => key one < key other := by
  have apart : ((sortBy key items).map key).Nodup := ((sortBy_perm items).map key).nodup_iff.mpr distinct
  exact List.Pairwise.imp₂ (fun _ _ below different => lt_of_le_of_ne below different)
    (sortBy_sorted items) (List.pairwise_map.mp apart)

/-- Sorting by distinct keys forgets the order of the items. -/
theorem sortBy_congr {items others : List α} (same : items.Perm others) (distinct : (others.map key).Nodup) :
    sortBy key items = sortBy key others :=
  sortBy_eq (same.trans (sortBy_perm others).symm) (sortBy_increasing distinct)

/-! ## The runs of a sorted list -/

theorem groupRuns_nonempty (items : List α) : [] ∉ groupRuns group items := List.nil_notMem_splitBy _ _

/-- A run has one value. -/
theorem groupRuns_alike {items : List α} {run : List α} (member : run ∈ groupRuns group items) {one other : α}
    (left : one ∈ run) (right : other ∈ run) : group one = group other := by
  have chain : run.IsChain fun one other => group one = group other :=
    (List.isChain_of_mem_splitBy member).imp fun _ _ same => by simpa using same
  have trans : IsTrans α fun one other => group one = group other := ⟨fun _ _ _ => Eq.trans⟩
  have pairs := List.isChain_iff_pairwise.mp chain
  have symm : Std.Symm fun one other => group one = group other := ⟨fun _ _ => Eq.symm⟩
  have itself : ∀ item ∈ run, group item = group item := fun _ _ => rfl
  exact List.Pairwise.forall_of_forall itself pairs left right

section Order
variable {δ : Type*} [LinearOrder δ] {rank : α → δ}

private theorem pairwise_rank {runs : List (List α)}
    (alike : ∀ run ∈ runs, ∀ one ∈ run, ∀ other ∈ run, rank one = rank other)
    (chain : runs.IsChain fun left right => ∃ ended begun, rank (left.getLast ended) ≠ rank (right.head begun))
    (sorted : runs.flatten.Pairwise fun one other => rank one ≤ rank other) :
    runs.Pairwise fun left right => ∀ one ∈ left, ∀ other ∈ right, rank one < rank other := by
  induction runs with
  | nil => exact .nil
  | cons run rest ih =>
    rw [List.flatten_cons, List.pairwise_append] at sorted
    refine List.pairwise_cons.mpr ⟨?_, ih (fun later member => alike later (List.mem_cons_of_mem _ member))
      chain.tail sorted.2.1⟩
    intro later member one inRun other inLater
    cases rest with
    | nil => cases member
    | cons next others =>
      obtain ⟨ended, begun, different⟩ := (List.isChain_cons_cons.mp chain).1
      have nextHead : next.head begun ∈ (next :: others).flatten :=
        List.mem_flatten.mpr ⟨next, List.mem_cons_self, List.head_mem begun⟩
      have strict : rank (run.getLast ended) < rank (next.head begun) :=
        lt_of_le_of_ne (sorted.2.2 _ (List.getLast_mem ended) _ nextHead) different
      have inRest : other ∈ (next :: others).flatten := List.mem_flatten.mpr ⟨later, member, inLater⟩
      have least : ∀ item ∈ (next :: others).flatten, rank (next.head begun) ≤ rank item := by
        have split : (next :: others).flatten = next.head begun :: (next.tail ++ others.flatten) := by
          rw [List.flatten_cons, ← List.cons_append, List.cons_head_tail]
        rw [split] at sorted ⊢
        intro item inItems
        rcases List.mem_cons.mp inItems with rfl | after
        · exact le_refl _
        · exact (List.pairwise_cons.mp sorted.2.1).1 item after
      rw [alike run List.mem_cons_self one inRun _ (List.getLast_mem ended)]
      exact strict.trans_le (least other inRest)

/-- Where the value of a run grows with the key, the runs of a sorted list are in
the order of their values, and no value has two runs. -/
theorem groupRuns_sorted (value : ∀ one other, group one = group other ↔ rank one = rank other)
    (grows : ∀ one other, key one ≤ key other → rank one ≤ rank other) (items : List α) :
    (groupRuns group (sortBy key items)).Pairwise fun left right =>
      ∀ one ∈ left, ∀ other ∈ right, rank one < rank other := by
  refine pairwise_rank (fun run member one left other right => ?_) ?_ ?_
  · exact (value one other).mp (groupRuns_alike member left right)
  · apply (List.isChain_getLast_head_splitBy _ _).imp
    rintro left right ⟨ended, begun, different⟩
    exact ⟨ended, begun, fun same => by simp [(value _ _).mpr same] at different⟩
  · rw [flatten_groupRuns]
    exact (sortBy_sorted items).imp fun {one other} below => grows one other below

end Order

end TemplatePreview.Grouping
