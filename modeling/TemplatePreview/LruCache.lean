import Mathlib.Data.List.Basic
import Mathlib.Data.List.Nodup

/-! A bounded cache that forgets the least recently used entry, as
`functools.lru_cache` keeps one in a process. Entries stand in the order of their
last use, the latest first; no key has two of them. -/
namespace TemplatePreview

structure LruCache (Key Value : Type) (maxsize : Nat) where
  entries : List (Key × Value)
  distinct : (entries.map Prod.fst).Nodup
  bounded : entries.length ≤ maxsize

variable {Key Value : Type} [DecidableEq Key] {maxsize : Nat}

namespace LruCache

def empty : LruCache Key Value maxsize := ⟨[], List.nodup_nil, Nat.zero_le _⟩

/-- The value of a key, if it is cached. -/
def lookup (cache : LruCache Key Value maxsize) (key : Key) : Option Value :=
  (cache.entries.find? fun entry => entry.1 = key).map Prod.snd

/-- A hit makes the entry the latest one. -/
def touch (cache : LruCache Key Value maxsize) (key : Key) : LruCache Key Value maxsize where
  entries := cache.entries.filter (fun entry => entry.1 = key) ++
    cache.entries.filter (fun entry => ¬ entry.1 = key)
  distinct := by
    have same := List.filter_append_perm (fun entry : Key × Value => decide (entry.1 = key)) cache.entries
    simp only [decide_not]
    exact ((same.map Prod.fst).nodup_iff).mpr cache.distinct
  bounded := by
    have same := (List.filter_append_perm
      (fun entry : Key × Value => decide (entry.1 = key)) cache.entries).length_eq
    simp only [decide_not]
    exact same ▸ cache.bounded

/-- A computed value becomes the latest entry and pushes out the oldest when the
cache is full. A key that was added in the meantime keeps its entry. -/
def insert (cache : LruCache Key Value maxsize) (key : Key) (value : Value) :
    LruCache Key Value maxsize :=
  if fresh : key ∈ cache.entries.map Prod.fst then cache
  else
    { entries := ((key, value) :: cache.entries).take maxsize
      distinct := by
        apply List.Nodup.sublist ((List.take_sublist _ _).map Prod.fst)
        simpa using ⟨by simpa using fresh, cache.distinct⟩
      bounded := List.length_take_le _ _ }

@[simp] theorem lookup_empty (key : Key) : (empty : LruCache Key Value maxsize).lookup key = none := rfl

theorem mem_of_lookup {cache : LruCache Key Value maxsize} {key : Key} {value : Value}
    (found : cache.lookup key = some value) : (key, value) ∈ cache.entries := by
  simp only [lookup, Option.map_eq_some_iff] at found
  obtain ⟨⟨held, _⟩, first, rfl⟩ := found
  have same : held = key := by simpa using List.find?_some first
  exact same ▸ List.mem_of_find?_eq_some first

/-- A cached key is found. -/
theorem lookup_of_mem {cache : LruCache Key Value maxsize} {key : Key} {value : Value}
    (member : (key, value) ∈ cache.entries) : cache.lookup key = some value := by
  cases found : cache.lookup key with
  | none =>
    simp only [lookup, Option.map_eq_none_iff, List.find?_eq_none] at found
    simpa using found _ member
  | some other =>
    have both := mem_of_lookup found
    have same := List.inj_on_of_nodup_map cache.distinct both member rfl
    exact congrArg (some ∘ Prod.snd) same

theorem lookup_eq_some_iff {cache : LruCache Key Value maxsize} {key : Key} {value : Value} :
    cache.lookup key = some value ↔ (key, value) ∈ cache.entries :=
  ⟨mem_of_lookup, lookup_of_mem⟩

@[simp] theorem mem_touch {cache : LruCache Key Value maxsize} {key : Key} {entry : Key × Value} :
    entry ∈ (cache.touch key).entries ↔ entry ∈ cache.entries := by
  simp only [touch, List.mem_append, List.mem_filter, decide_eq_true_eq]
  by_cases same : entry.1 = key <;> simp [same]

/-- Using an entry does not change what any key finds. -/
theorem lookup_touch (cache : LruCache Key Value maxsize) (key other : Key) :
    (cache.touch key).lookup other = cache.lookup other := by
  ext value
  simp only [lookup_eq_some_iff, mem_touch]

/-- An insertion brings no entry but its own. -/
theorem mem_insert {cache : LruCache Key Value maxsize} {key : Key} {value : Value} {entry : Key × Value}
    (member : entry ∈ (cache.insert key value).entries) : entry = (key, value) ∨ entry ∈ cache.entries := by
  unfold insert at member
  split at member
  · exact Or.inr member
  · exact List.mem_cons.mp (List.mem_of_mem_take member)

/-- What an insertion finds is the new value or an entry that was there. -/
theorem lookup_insert {cache : LruCache Key Value maxsize} {key other : Key} {value found : Value}
    (hit : (cache.insert key value).lookup other = some found) :
    (other = key ∧ found = value) ∨ cache.lookup other = some found := by
  rcases mem_insert (mem_of_lookup hit) with same | member
  · exact Or.inl (Prod.mk.injEq .. ▸ same)
  · exact Or.inr (lookup_of_mem member)

/-- A new key is found after its insertion. -/
theorem lookup_insert_self {cache : LruCache Key Value maxsize} {key : Key} (value : Value)
    (absent : cache.lookup key = none) (positive : 0 < maxsize) :
    (cache.insert key value).lookup key = some value := by
  have fresh : key ∉ cache.entries.map Prod.fst := by
    intro member
    obtain ⟨⟨_, other⟩, held, rfl⟩ := List.mem_map.mp member
    rw [lookup_of_mem held] at absent
    cases absent
  apply lookup_of_mem
  rw [insert, dif_neg fresh]
  cases maxsize with
  | zero => exact absurd positive (Nat.lt_irrefl 0)
  | succ size => exact List.mem_cons_self

end LruCache

end TemplatePreview
