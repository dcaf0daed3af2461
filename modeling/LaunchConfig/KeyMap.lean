/-!
Finite maps with text keys, listed by ascending key. Keys compare by code point, which is also the
byte order of their UTF-8 form. A map has one listing only, so two maps with equal look-ups are
equal.
-/
namespace LaunchConfig

/-- Puts a value under a key into a listing, in place of the value that the key has there. -/
def insertPair (key : String) (value : α) : List (String × α) → List (String × α)
  | [] => [(key, value)]
  | (other, held) :: rest =>
    if key < other then (key, value) :: (other, held) :: rest
    else if key = other then (key, value) :: rest
    else (other, held) :: insertPair key value rest

/-- Each key stands before all later ones. -/
def Ascending (pairs : List (String × α)) : Prop :=
  pairs.Pairwise fun left right => left.1 < right.1

theorem mem_insertPair {key : String} {value : α} {pairs : List (String × α)}
    {pair : String × α} (member : pair ∈ insertPair key value pairs) :
    pair = (key, value) ∨ pair ∈ pairs := by
  induction pairs with
  | nil => simpa [insertPair] using member
  | cons head rest ih =>
    obtain ⟨other, held⟩ := head
    simp only [insertPair] at member
    split at member
    · simpa using member
    · split at member
      · rcases List.mem_cons.mp member with same | inside
        · exact Or.inl same
        · exact Or.inr (List.mem_cons_of_mem _ inside)
      · rcases List.mem_cons.mp member with same | inside
        · exact Or.inr (same ▸ List.mem_cons_self)
        · exact (ih inside).imp_right (List.mem_cons_of_mem _)

theorem lt_of_not_lt_of_ne {left right : String} (notLess : ¬ left < right) (differ : left ≠ right) :
    right < left := by
  rcases Decidable.em (right < left) with less | notMore
  · exact less
  · exact absurd (String.le_antisymm (String.not_lt.mp notMore) (String.not_lt.mp notLess)) differ

theorem ascending_insertPair (key : String) (value : α) {pairs : List (String × α)}
    (sorted : Ascending pairs) : Ascending (insertPair key value pairs) := by
  induction pairs with
  | nil => simp [insertPair, Ascending]
  | cons head rest ih =>
    obtain ⟨other, held⟩ := head
    have later := (List.pairwise_cons.mp sorted).1
    have tail := (List.pairwise_cons.mp sorted).2
    simp only [insertPair]
    split
    · rename_i less
      refine List.pairwise_cons.mpr ⟨fun pair member => ?_, sorted⟩
      rcases List.mem_cons.mp member with same | inside
      · exact same ▸ less
      · exact String.lt_trans less (later pair inside)
    · split
      · rename_i same
        exact List.pairwise_cons.mpr ⟨same ▸ later, tail⟩
      · rename_i notLess differ
        refine List.pairwise_cons.mpr ⟨fun pair member => ?_, ih tail⟩
        rcases mem_insertPair member with same | inside
        · exact same ▸ lt_of_not_lt_of_ne notLess differ
        · exact later pair inside

/-- A finite map from texts, as the one listing of its pairs by ascending key. -/
structure KeyMap (α : Type) where
  pairs : List (String × α)
  ascending : Ascending pairs

namespace KeyMap

def empty : KeyMap α := ⟨[], List.Pairwise.nil⟩

instance : Inhabited (KeyMap α) := ⟨empty⟩

instance [DecidableEq α] : DecidableEq (KeyMap α) := fun left right =>
  decidable_of_iff (left.pairs = right.pairs) <| by
    cases left; cases right; simp

def insert (map : KeyMap α) (key : String) (value : α) : KeyMap α :=
  ⟨insertPair key value map.pairs, ascending_insertPair key value map.ascending⟩

def get? (map : KeyMap α) (key : String) : Option α :=
  map.pairs.lookup key

def contains (map : KeyMap α) (key : String) : Bool :=
  (map.get? key).isSome

def keys (map : KeyMap α) : List String :=
  map.pairs.map Prod.fst

def size (map : KeyMap α) : Nat :=
  map.pairs.length

/-- The pairs whose key and value pass a test. -/
def filter (test : String → α → Bool) (map : KeyMap α) : KeyMap α :=
  ⟨map.pairs.filter fun pair => test pair.1 pair.2,
    List.Pairwise.sublist List.filter_sublist map.ascending⟩

def erase (map : KeyMap α) (key : String) : KeyMap α :=
  map.filter fun other _ => other ≠ key

def map (change : α → β) (held : KeyMap α) : KeyMap β :=
  ⟨held.pairs.map fun pair => (pair.1, change pair.2), by
    unfold Ascending
    rw [List.pairwise_map]
    exact held.ascending⟩

/-- The map of a list of pairs. Of two pairs with one key, the later counts. -/
def ofList (pairs : List (String × α)) : KeyMap α :=
  pairs.foldl (fun map pair => map.insert pair.1 pair.2) empty

end KeyMap

theorem lookup_cons_eq_ite (key : String) (pair : String × α) (rest : List (String × α)) :
    (pair :: rest).lookup key = if key = pair.1 then some pair.2 else rest.lookup key := by
  rw [List.lookup_cons]
  by_cases same : key = pair.1
  · simp [same]
  · simp [same, beq_false_of_ne same]

theorem lookup_insertPair (key other : String) (value : α) (pairs : List (String × α)) :
    (insertPair key value pairs).lookup other =
      if other = key then some value else pairs.lookup other := by
  induction pairs with
  | nil => simp [insertPair, lookup_cons_eq_ite]
  | cons head rest ih =>
    obtain ⟨held, _⟩ := head
    simp only [insertPair]
    split
    · simp [lookup_cons_eq_ite]
    · split
      · rename_i same
        subst same
        by_cases equal : other = key <;> simp [lookup_cons_eq_ite, equal]
      · rename_i differ
        by_cases equal : other = held
        · subst equal
          simp [Ne.symm differ]
        · simp [lookup_cons_eq_ite, equal, ih]

namespace KeyMap

@[simp] theorem get?_empty (key : String) : (empty : KeyMap α).get? key = none := rfl

@[simp] theorem get?_insert (map : KeyMap α) (key other : String) (value : α) :
    (map.insert key value).get? other = if other = key then some value else map.get? other :=
  lookup_insertPair key other value map.pairs

end KeyMap

end LaunchConfig
