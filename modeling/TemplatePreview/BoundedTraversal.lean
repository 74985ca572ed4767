import TemplatePreview.Outcomes
import Mathlib.Logic.Relation
import Mathlib.Data.List.Chain

/-! A walk of a graph from a node, on a stack with room for so many nested calls and
without a record of the nodes it has been to. Every call takes room for itself and,
while it looks at its node, for what it calls then. The walk ends exactly when there is
room at the end of every path from the node, and then it has been to every reachable
node. -/
namespace TemplatePreview.BoundedTraversal
open Outcomes

variable {ε α γ : Type} {children : α → Except ε (List α)} {need : α → Nat} {limit : ε} {room : Nat}
  {node other : α} {visited : List α}

/-- The nodes a walk visits, in order, each before those below it. -/
def traverse (children : α → Except ε (List α)) (need : α → Nat) (limit : ε) : Nat → α → Except ε (List α)
  | 0, _ => .error limit
  | room + 1, node =>
    if room < need node then .error limit
    else do
      let next ← children node
      let below ← next.mapM (traverse children need limit room)
      return node :: below.flatten

/-- A walk that hands a state from one visit to the next. -/
def traverseWith (children : α → Except ε (List α)) (need : α → Nat) (limit : ε) (visit : γ → α → Except ε γ) :
    Nat → γ → α → Except ε γ
  | 0, _, _ => .error limit
  | room + 1, state, node =>
    if room < need node then .error limit
    else do
      let state ← visit state node
      let next ← children node
      next.foldlM (traverseWith children need limit visit room) state

/-- One step down. -/
def Child (children : α → Except ε (List α)) (node child : α) : Prop :=
  ∃ next, children node = .ok next ∧ child ∈ next

abbrev Reachable (children : α → Except ε (List α)) : α → α → Prop := Relation.ReflTransGen (Child children)

/-- There is room for the calls along every path from a node and for looking at the
node where it ends. -/
def Shallow (children : α → Except ε (List α)) (need : α → Nat) (room : Nat) (node : α) : Prop :=
  ∀ path, (node :: path).IsChain (Child children) → path.length + need (path.getLastD node) < room

theorem Shallow.here (shallow : Shallow children need room node) : need node < room := by
  simpa using shallow [] (.singleton _)

theorem shallow_succ_iff : Shallow children need (room + 1) node ↔
    need node ≤ room ∧ ∀ child, Child children node child → Shallow children need room child := by
  constructor
  · intro shallow
    refine ⟨Nat.lt_succ_iff.mp shallow.here, fun child edge path chain => ?_⟩
    have longer := shallow (child :: path) (List.isChain_cons_cons.mpr ⟨edge, chain⟩)
    rw [List.length_cons, List.getLastD_cons] at longer
    omega
  · rintro ⟨enough, below⟩ path chain
    cases path with
    | nil => simpa using Nat.lt_succ_of_le enough
    | cons child rest =>
      obtain ⟨edge, chain⟩ := List.isChain_cons_cons.mp chain
      have shorter := below child edge rest chain
      rw [List.length_cons, List.getLastD_cons]
      omega

theorem traverse_succ_eq_ok : traverse children need limit (room + 1) node = .ok visited ↔
    need node ≤ room ∧ ∃ next below, children node = .ok next ∧
      next.mapM (traverse children need limit room) = .ok below ∧ visited = node :: below.flatten := by
  rw [traverse]
  split
  · rename_i full
    exact iff_of_false nofun fun enough => absurd full (Nat.not_lt.mpr enough.1)
  rename_i enough
  rw [bind_eq_ok]
  constructor
  · rintro ⟨next, found, rest⟩
    obtain ⟨below, walked, ⟨⟩⟩ := bind_eq_ok.mp rest
    exact ⟨Nat.not_lt.mp enough, next, below, found, walked, rfl⟩
  · rintro ⟨_, next, below, found, walked, rfl⟩
    exact ⟨next, found, bind_eq_ok.mpr ⟨below, walked, rfl⟩⟩

/-- A walk ends exactly when the graph is shallow enough below the node and the
children of every node below it are found. -/
theorem traverse_returns_iff : Returns (traverse children need limit room node) ↔
    Shallow children need room node ∧ ∀ other, Reachable children node other → Returns (children other) := by
  induction room generalizing node with
  | zero =>
    refine iff_of_false (fun ⟨visited, walked⟩ => ?_) fun ⟨shallow, _⟩ => ?_
    · cases walked
    · exact Nat.not_lt_zero _ shallow.here
  | succ room ih =>
    constructor
    · rintro ⟨visited, walked⟩
      obtain ⟨enough, next, below, found, walkedBelow, _⟩ := traverse_succ_eq_ok.mp walked
      have each {child : α} (edge : Child children node child) : Shallow children need room child ∧
          ∀ other, Reachable children child other → Returns (children other) := by
        obtain ⟨others, again, member⟩ := edge
        cases found.symm.trans again
        exact ih.mp (returns_of_mapM ⟨below, walkedBelow⟩ member)
      refine ⟨shallow_succ_iff.mpr ⟨enough, fun child edge => (each edge).1⟩, fun other reached => ?_⟩
      rcases Relation.ReflTransGen.cases_head reached with rfl | ⟨child, edge, rest⟩
      · exact ⟨next, found⟩
      · exact (each edge).2 other rest
    · rintro ⟨shallow, found⟩
      obtain ⟨enough, shallowBelow⟩ := shallow_succ_iff.mp shallow
      obtain ⟨next, here⟩ := found node .refl
      obtain ⟨below, walked⟩ : Returns (next.mapM (traverse children need limit room)) := by
        refine Returns.mapM fun child member => ih.mpr ?_
        have edge : Child children node child := ⟨next, here, member⟩
        exact ⟨shallowBelow child edge, fun other reached => found other (.head edge reached)⟩
      exact ⟨_, traverse_succ_eq_ok.mpr ⟨enough, next, below, here, walked, rfl⟩⟩

/-- A walk that ends has visited exactly the reachable nodes. -/
theorem mem_traverse (walked : traverse children need limit room node = .ok visited) :
    other ∈ visited ↔ Reachable children node other := by
  induction room generalizing node visited with
  | zero => cases walked
  | succ room ih =>
    obtain ⟨_, next, below, found, walkedBelow, rfl⟩ := traverse_succ_eq_ok.mp walked
    rw [List.mem_cons, List.mem_flatten]
    constructor
    · rintro (rfl | ⟨list, member, inList⟩)
      · exact .refl
      · obtain ⟨child, inNext, walkedChild⟩ := (mem_mapM walkedBelow).mp member
        exact .head ⟨next, found, inNext⟩ ((ih walkedChild).mp inList)
    · intro reached
      rcases Relation.ReflTransGen.cases_head reached with rfl | ⟨child, ⟨others, again, inNext⟩, rest⟩
      · exact .inl rfl
      · cases found.symm.trans again
        obtain ⟨list, walkedChild⟩ := returns_of_mapM ⟨below, walkedBelow⟩ inNext
        exact .inr ⟨list, (mem_mapM walkedBelow).mpr ⟨child, inNext, walkedChild⟩, (ih walkedChild).mpr rest⟩

/-- Handing on a state is visiting the nodes one after another. -/
theorem traverseWith_eq_ok {visit : γ → α → Except ε γ} {before after : γ} :
    traverseWith children need limit visit room before node = .ok after ↔
      ∃ visited, traverse children need limit room node = .ok visited ∧ visited.foldlM visit before = .ok after := by
  induction room generalizing node before after with
  | zero => simp [traverseWith, traverse]
  | succ room ih =>
    have below (next : List α) (before : γ) :
        next.foldlM (traverseWith children need limit visit room) before = .ok after ↔
          ∃ lists, next.mapM (traverse children need limit room) = .ok lists ∧
            lists.flatten.foldlM visit before = .ok after :=
      foldlM_flatten_eq_ok fun child _ state result => ih
    by_cases full : room < need node
    · simp [traverseWith, traverse, full]
    have enough := Nat.not_lt.mp full
    simp only [traverseWith, full, ↓reduceIte, bind_eq_ok, below, traverse_succ_eq_ok]
    constructor
    · rintro ⟨middle, visits, next, found, lists, walked, ended⟩
      exact ⟨_, ⟨enough, next, lists, found, walked, rfl⟩, by simp [visits, ended]⟩
    · rintro ⟨_, ⟨_, next, lists, found, walked, rfl⟩, ended⟩
      rw [List.foldlM_cons] at ended
      obtain ⟨middle, visits, ended⟩ := bind_eq_ok.mp ended
      exact ⟨middle, visits, next, found, lists, walked, ended⟩

/-! ## Cycles -/

private theorem Shallow.child (shallow : Shallow children need room node) (edge : Child children node other) :
    ∃ less, less < room ∧ Shallow children need less other := by
  cases room with
  | zero => exact absurd shallow.here (Nat.not_lt_zero _)
  | succ less => exact ⟨less, Nat.lt_succ_self _, (shallow_succ_iff.mp shallow).2 other edge⟩

private theorem Shallow.below (shallow : Shallow children need room node)
    (below : Relation.TransGen (Child children) node other) : ∃ less, less < room ∧
      Shallow children need less other := by
  induction below with
  | single edge => exact shallow.child edge
  | tail _ edge ih =>
    obtain ⟨less, smaller, rest⟩ := ih
    obtain ⟨least, smallest, last⟩ := rest.child edge
    exact ⟨least, smallest.trans smaller, last⟩

/-- No stack has room for a node that is below itself. -/
theorem not_shallow_of_cycle (cycle : Relation.TransGen (Child children) node node) :
    ¬ Shallow children need room node := by
  induction room using Nat.strong_induction_on with
  | _ room ih =>
    intro shallow
    obtain ⟨less, smaller, again⟩ := shallow.below cycle
    exact ih less smaller again

/-- A walk that comes to a node that is below itself does not end. -/
theorem not_returns_of_cycle (reached : Reachable children node other)
    (cycle : Relation.TransGen (Child children) other other) :
    ¬ Returns (traverse children need limit room node) := by
  intro returns
  have shallow := (traverse_returns_iff.mp returns).1
  rcases Relation.reflTransGen_iff_eq_or_transGen.mp reached with rfl | below
  · exact not_shallow_of_cycle cycle shallow
  · obtain ⟨_, _, rest⟩ := shallow.below below
    exact not_shallow_of_cycle cycle rest

end TemplatePreview.BoundedTraversal
