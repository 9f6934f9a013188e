/-!
# Directories

A directory files values under keys and is read in the order of the keys. The order is part of the
type, so two directories that answer every key alike are equal.
-/

namespace CardTable

universe u v w

/-- Values filed under keys, each key at most once and in increasing order. -/
structure Directory (κ : Type u) (α : Type v) [LT κ] where
  entries : List (κ × α)
  ordered : entries.Pairwise fun entry later => entry.1 < later.1 := by simp

namespace Directory

variable {κ : Type u} {α : Type v} {β : Type w} [LT κ]

@[ext]
theorem ext {directory other : Directory κ α} (same : directory.entries = other.entries) :
    directory = other := by
  cases directory
  cases other
  cases same
  rfl

def empty : Directory κ α where
  entries := []

instance : Inhabited (Directory κ α) := ⟨empty⟩

def size (directory : Directory κ α) : Nat :=
  directory.entries.length

/-- The keys in use, in order. -/
def keys (directory : Directory κ α) : List κ :=
  directory.entries.map Prod.fst

/-- The values in the order of their keys. -/
def values (directory : Directory κ α) : List α :=
  directory.entries.map Prod.snd

/-- Changes every value in a way that may depend on its key. -/
def mapEntries (directory : Directory κ α) (change : κ → α → β) : Directory κ β where
  entries := directory.entries.map fun entry => (entry.1, change entry.1 entry.2)
  ordered := List.pairwise_map.2 directory.ordered

section Lookup

variable [DecidableEq κ]

def get? (directory : Directory κ α) (key : κ) : Option α :=
  (directory.entries.find? fun entry => entry.1 = key).map Prod.snd

def contains (directory : Directory κ α) (key : κ) : Bool :=
  (directory.get? key).isSome

def erase (directory : Directory κ α) (key : κ) : Directory κ α where
  entries := directory.entries.filter fun entry => entry.1 ≠ key
  ordered := directory.ordered.filter _

/-- Changes what is filed under a key, if anything is. -/
def modify (directory : Directory κ α) (key : κ) (change : α → α) : Directory κ α :=
  directory.mapEntries fun other value => if other = key then change value else value

@[simp]
theorem get?_empty (key : κ) : (empty : Directory κ α).get? key = none := rfl

@[simp]
theorem get?_mapEntries (directory : Directory κ α) (change : κ → α → β) (key : κ) :
    (directory.mapEntries change).get? key = (directory.get? key).map (change key) := by
  simp only [get?, mapEntries, List.find?_map, Option.map_map]
  cases found : directory.entries.find? fun entry => entry.1 = key with
  | none => simp [Function.comp_def, found]
  | some entry =>
    have same : entry.1 = key := by simpa using List.find?_some found
    simp [Function.comp_def, found, same]

theorem get?_modify (directory : Directory κ α) (key other : κ) (change : α → α) :
    (directory.modify key change).get? other =
      if other = key then (directory.get? other).map change else directory.get? other := by
  rw [modify, get?_mapEntries]
  split <;> simp

theorem get?_erase (directory : Directory κ α) (key other : κ) :
    (directory.erase key).get? other = if other = key then none else directory.get? other := by
  simp only [get?, erase, List.find?_filter]
  split
  · next same =>
    subst same
    rw [List.find?_eq_none.2 (by simp)]
    rfl
  · next different =>
    congr 2
    funext entry
    by_cases same : entry.1 = other
    · simp [same, different]
    · simp [same]

theorem contains_erase (directory : Directory κ α) (key other : κ) :
    (directory.erase key).contains other ↔ directory.contains other ∧ other ≠ key := by
  rw [contains, contains, get?_erase]
  split
  · next same => simp [same]
  · next different => simp [different]

end Lookup

section Insert

variable [LE κ] [DecidableLT κ] [Std.IsLinearOrder κ] [Std.LawfulOrderLT κ]

/-- Files a value under a key, in place of what was filed there. -/
def insert (directory : Directory κ α) (key : κ) (value : α) : Directory κ α where
  entries :=
    (directory.entries.filter fun entry => entry.1 < key) ++
      (key, value) :: directory.entries.filter fun entry => key < entry.1
  ordered := by
    refine List.pairwise_append.2 ⟨directory.ordered.filter _, ?_, ?_⟩
    · refine List.pairwise_cons.2 ⟨fun later behind => ?_, directory.ordered.filter _⟩
      simpa using (List.mem_filter.1 behind).2
    · intro earlier ahead later behind
      have before : earlier.1 < key := by simpa using (List.mem_filter.1 ahead).2
      rcases List.mem_cons.1 behind with rfl | behind
      · exact before
      · exact Std.lt_trans before (by simpa using (List.mem_filter.1 behind).2)

end Insert

section Laws

variable [DecidableEq κ] [LE κ] [Std.LawfulOrderLT κ]

/-- The entries are exactly what `get?` finds. -/
theorem mem_entries_iff {directory : Directory κ α} {key : κ} {value : α} :
    (key, value) ∈ directory.entries ↔ directory.get? key = some value := by
  constructor
  · intro filed
    obtain ⟨before, after, split⟩ := List.append_of_mem filed
    have ordered := directory.ordered
    rw [split, List.pairwise_append] at ordered
    have unfiled : before.find? (fun entry => entry.1 = key) = none := by
      refine List.find?_eq_none.2 fun entry ahead same => ?_
      have smaller := ordered.2.2 entry ahead (key, value) (by simp)
      exact Std.lt_irrefl (by simpa [of_decide_eq_true same] using smaller)
    simp [get?, split, List.find?_append, unfiled]
  · intro found
    obtain ⟨entry, located, rfl⟩ := Option.map_eq_some_iff.1 found
    have same : entry.1 = key := by simpa using List.find?_some located
    rw [← same]
    exact List.mem_of_find?_eq_some located

theorem mem_keys_iff {directory : Directory κ α} {key : κ} :
    key ∈ directory.keys ↔ (directory.get? key).isSome := by
  rw [Option.isSome_iff_exists]
  constructor
  · intro used
    obtain ⟨⟨_, value⟩, filed, rfl⟩ := List.mem_map.1 used
    exact ⟨value, mem_entries_iff.1 filed⟩
  · rintro ⟨value, found⟩
    exact List.mem_map_of_mem (mem_entries_iff.2 found)

variable [Std.IsLinearOrder κ]

theorem get?_insert [DecidableLT κ] (directory : Directory κ α) (key other : κ) (value : α) :
    (directory.insert key value).get? other =
      if other = key then some value else directory.get? other := by
  split
  · next same =>
    subst same
    exact mem_entries_iff.1 (by simp [insert])
  · next different =>
    have kept (filed : α) :
        (other, filed) ∈ (directory.insert key value).entries ↔
          (other, filed) ∈ directory.entries := by
      simp only [insert, List.mem_append, List.mem_filter, List.mem_cons, Prod.mk.injEq, different,
        false_and, false_or, decide_eq_true_eq, ← and_or_left, and_iff_left_iff_imp]
      intro _
      exact (Std.lt_trichotomy other key).imp_right fun later => later.resolve_left different
    refine Option.ext fun filed => ?_
    rw [← mem_entries_iff, ← mem_entries_iff, kept]

theorem ext_get? {directory other : Directory κ α}
    (alike : ∀ key, directory.get? key = other.get? key) : directory = other := by
  have distinct (directory : Directory κ α) : directory.entries.Nodup :=
    List.nodup_iff_pairwise_ne.2 <| directory.ordered.imp fun below same => by
      subst same
      exact Std.lt_irrefl below
  have shuffled : directory.entries.Perm other.entries := by
    refine (List.perm_ext_iff_of_nodup (distinct directory) (distinct other)).2 ?_
    rintro ⟨key, value⟩
    rw [mem_entries_iff, mem_entries_iff, alike]
  refine ext (shuffled.eq_of_pairwise ?_ directory.ordered other.ordered)
  intro entry later _ _ below above
  exact absurd (Std.lt_trans below above) Std.lt_irrefl

end Laws

end Directory

end CardTable
