import LaunchConfig.KeyMap

/-!
Look-ups decide maps. A map answers for a key with the one value that its listing has under the key,
and a map that is made of a list answers with the last one, so the order of a list counts only for
keys that it has more than once.
-/
namespace LaunchConfig

variable {α β : Type}

theorem mem_of_lookup {key : String} {value : α} {pairs : List (String × α)}
    (found : pairs.lookup key = some value) : (key, value) ∈ pairs := by
  obtain ⟨before, after, rfl, -⟩ := List.lookup_eq_some_iff.mp found
  exact List.mem_append_right before List.mem_cons_self

theorem lookup_eq_none_iff_notMem {key : String} {pairs : List (String × α)} :
    pairs.lookup key = none ↔ key ∉ pairs.map Prod.fst := by
  rw [List.lookup_eq_none_iff, List.mem_map]
  grind

theorem lookup_isSome_iff_mem {key : String} {pairs : List (String × α)} :
    (pairs.lookup key).isSome ↔ key ∈ pairs.map Prod.fst := by
  rw [List.lookup_isSome_iff, List.mem_map]
  grind

theorem lookup_of_mem {key : String} {value : α} {pairs : List (String × α)}
    (once : (pairs.map Prod.fst).Nodup) (member : (key, value) ∈ pairs) :
    pairs.lookup key = some value := by
  induction pairs with
  | nil => simp at member
  | cons head rest ih =>
    obtain ⟨fresh, tail⟩ := List.nodup_cons.mp once
    rcases List.mem_cons.mp member with same | later
    · simp [← same]
    · have differ : key ≠ head.1 := fun same => fresh (same ▸ List.mem_map_of_mem later)
      simpa [lookup_cons_eq_ite, differ] using ih tail later

theorem lookup_eq_some_iff {key : String} {value : α} {pairs : List (String × α)}
    (once : (pairs.map Prod.fst).Nodup) :
    pairs.lookup key = some value ↔ (key, value) ∈ pairs :=
  ⟨mem_of_lookup, lookup_of_mem once⟩

-- Keys that occur once are found wherever they stand.
theorem lookup_perm {left right : List (String × α)} (once : (left.map Prod.fst).Nodup)
    (order : left.Perm right) (key : String) : left.lookup key = right.lookup key := by
  apply Option.ext
  intro value
  rw [lookup_eq_some_iff once, lookup_eq_some_iff ((order.map Prod.fst).nodup_iff.mp once),
    order.mem_iff]

theorem lookup_map (change : String → α → β) (key : String) (pairs : List (String × α)) :
    (pairs.map fun pair => (pair.1, change pair.1 pair.2)).lookup key =
      (pairs.lookup key).map (change key) := by
  induction pairs with
  | nil => simp
  | cons head rest ih => by_cases same : key = head.1 <;> simp [lookup_cons_eq_ite, same, ih]

theorem lookup_filter (test : String → Bool) (key : String) (pairs : List (String × α)) :
    (pairs.filter fun pair => test pair.1).lookup key =
      if test key then pairs.lookup key else none := by
  induction pairs with
  | nil => simp
  | cons head rest ih =>
    rw [lookup_cons_eq_ite, List.filter_cons]
    by_cases kept : test head.1 = true
    · rw [if_pos kept, lookup_cons_eq_ite, ih]
      by_cases same : key = head.1 <;> simp [kept, same]
    · rw [if_neg kept, ih]
      by_cases same : key = head.1 <;> simp [kept, same]

theorem keys_filterMap_sublist (change : α → Option β) (pairs : List (String × α)) :
    ((pairs.filterMap fun pair => (change pair.2).map fun value => (pair.1, value)).map Prod.fst).Sublist
      (pairs.map Prod.fst) := by
  induction pairs with
  | nil => simp
  | cons head rest ih =>
    cases kept : change head.2 with
    | none => simpa [kept] using ih.trans (List.sublist_cons_self _ _)
    | some value => simpa [kept] using ih

theorem lookup_filterMap (change : α → Option β) {pairs : List (String × α)}
    (once : (pairs.map Prod.fst).Nodup) (key : String) :
    (pairs.filterMap fun pair => (change pair.2).map fun value => (pair.1, value)).lookup key =
      (pairs.lookup key).bind change := by
  induction pairs with
  | nil => rfl
  | cons head rest ih =>
    obtain ⟨fresh, tail⟩ := List.nodup_cons.mp once
    by_cases same : key = head.1
    · subst same
      have absent := lookup_eq_none_iff_notMem.mpr
        fun member => fresh ((keys_filterMap_sublist change rest).subset member)
      cases kept : change head.2 <;> simp [lookup_cons_eq_ite, kept, absent]
    · cases kept : change head.2 <;> simp [lookup_cons_eq_ite, kept, same, ih tail]

theorem lookup_map_keys (change : String → α) (key : String) (keys : List String) :
    (keys.map fun name => (name, change name)).lookup key =
      if key ∈ keys then some (change key) else none := by
  induction keys with
  | nil => simp
  | cons name rest ih =>
    by_cases same : key = name
    · simp [same]
    · simp [lookup_cons_eq_ite, same, ih]

theorem insertPair_of_last {key : String} {value : α} {pairs : List (String × α)}
    (last : ∀ pair ∈ pairs, pair.1 < key) : insertPair key value pairs = pairs ++ [(key, value)] := by
  induction pairs with
  | nil => rfl
  | cons head rest ih =>
    have less := last head List.mem_cons_self
    have notLess : ¬ key < head.1 := fun more => String.lt_irrefl key (String.lt_trans more less)
    have differ : key ≠ head.1 := fun same => String.lt_irrefl head.1 (same ▸ less)
    simp [insertPair, notLess, differ, ih fun pair member => last pair (List.mem_cons_of_mem head member)]

theorem ne_of_lt {left right : String} (less : left < right) : left ≠ right := by
  intro same
  exact String.lt_irrefl right (same ▸ less)

-- In an ascending listing, to stand before a pair is to have a smaller key.
theorem mem_before_iff {before after : List (String × α)} {pair other : String × α}
    (sorted : Ascending (before ++ pair :: after)) :
    other ∈ before ↔ other ∈ before ++ pair :: after ∧ other.1 < pair.1 := by
  obtain ⟨-, later, earlier⟩ := List.pairwise_append.mp sorted
  constructor
  · exact fun member =>
      ⟨List.mem_append_left _ member, earlier other member pair List.mem_cons_self⟩
  · rintro ⟨member, less⟩
    rcases List.mem_append.mp member with before | after
    · exact before
    · rcases List.mem_cons.mp after with rfl | after
      · exact absurd less (String.lt_irrefl _)
      · have more := (List.pairwise_cons.mp later).1 other after
        exact absurd (String.lt_trans less more) (String.lt_irrefl _)

theorem keys_nodup {pairs : List (String × α)} (sorted : Ascending pairs) :
    (pairs.map Prod.fst).Nodup := by
  unfold List.Nodup
  rw [List.pairwise_map]
  exact sorted.imp (fun less => ne_of_lt less)

-- Sorted lists with the same items are permutations of each other, and the order leaves no choice.
theorem sorted_ext {less : α → α → Prop} (irreflexive : ∀ item, ¬ less item item)
    (transitive : ∀ {first second third}, less first second → less second third → less first third)
    {left right : List α} (leftSorted : left.Pairwise less) (rightSorted : right.Pairwise less)
    (same : ∀ item, item ∈ left ↔ item ∈ right) : left = right := by
  have distinct : ∀ {items : List α}, items.Pairwise less → items.Nodup := by
    intro items sorted
    refine sorted.imp ?_
    rintro first _ below rfl
    exact irreflexive first below
  apply List.Perm.eq_of_pairwise _ leftSorted rightSorted
  · exact (List.perm_ext_iff_of_nodup (distinct leftSorted) (distinct rightSorted)).mpr same
  · intro first second _ _ below above
    exact absurd (transitive below above) (irreflexive first)

theorem keys_ext {left right : List String} (leftSorted : left.Pairwise (· < ·))
    (rightSorted : right.Pairwise (· < ·)) (same : ∀ key, key ∈ left ↔ key ∈ right) :
    left = right :=
  sorted_ext String.lt_irrefl String.lt_trans leftSorted rightSorted same

/-- Ascending listings with the same look-ups are the same. -/
theorem ascending_ext {left right : List (String × α)} (leftSorted : Ascending left)
    (rightSorted : Ascending right) (same : ∀ key, left.lookup key = right.lookup key) :
    left = right := by
  apply sorted_ext _ _ leftSorted rightSorted
  · intro ⟨key, value⟩
    rw [← lookup_eq_some_iff (keys_nodup leftSorted),
      ← lookup_eq_some_iff (keys_nodup rightSorted), same]
  · exact fun pair => String.lt_irrefl pair.1
  · exact fun below above => String.lt_trans below above

namespace KeyMap

theorem ext_get? {left right : KeyMap α} (same : ∀ key, left.get? key = right.get? key) :
    left = right := by
  obtain ⟨leftPairs, leftSorted⟩ := left
  obtain ⟨rightPairs, rightSorted⟩ := right
  obtain rfl : leftPairs = rightPairs := ascending_ext leftSorted rightSorted same
  rfl

theorem mem_pairs_iff {map : KeyMap α} {key : String} {value : α} :
    (key, value) ∈ map.pairs ↔ map.get? key = some value :=
  (lookup_eq_some_iff (keys_nodup map.ascending)).symm

theorem mem_keys_iff {map : KeyMap α} {key : String} :
    key ∈ map.keys ↔ (map.get? key).isSome :=
  lookup_isSome_iff_mem.symm

theorem keys_ascending (map : KeyMap α) : map.keys.Pairwise (· < ·) :=
  List.pairwise_map.mpr map.ascending

theorem get?_ofList (pairs : List (String × α)) (key : String) :
    (ofList pairs).get? key = pairs.reverse.lookup key := by
  -- Over any map to start from: what the list says counts more than what the map held.
  have folded : ∀ map : KeyMap α,
      (pairs.foldl (fun map pair => map.insert pair.1 pair.2) map).get? key =
        (pairs.reverse.lookup key).or (map.get? key) := by
    induction pairs with
    | nil => simp
    | cons head rest ih =>
      intro map
      rw [List.foldl_cons, ih, List.reverse_cons, List.lookup_append, get?_insert]
      by_cases same : key = head.1 <;> simp [lookup_cons_eq_ite, same]
  simpa [ofList] using folded empty

theorem get?_ofList_of_nodup {pairs : List (String × α)} (once : (pairs.map Prod.fst).Nodup)
    (key : String) : (ofList pairs).get? key = pairs.lookup key := by
  rw [get?_ofList]
  exact (lookup_perm once (List.reverse_perm pairs).symm key).symm

theorem get?_ofList_keyed (change : String → α) {names : List String} (once : names.Nodup)
    (key : String) : (ofList (names.map fun name => (name, change name))).get? key =
      if key ∈ names then some (change key) else none := by
  have same : (names.map fun name => (name, change name)).map Prod.fst = names := by
    simp [Function.comp_def]
  rw [get?_ofList_of_nodup (by rwa [same]), lookup_map_keys]

theorem ofList_pairs (map : KeyMap α) : ofList map.pairs = map := by
  apply ext_get?
  intro key
  exact get?_ofList_of_nodup (keys_nodup map.ascending) key

theorem get?_map (change : α → β) (held : KeyMap α) (key : String) :
    (held.map change).get? key = (held.get? key).map change :=
  lookup_map (fun _ => change) key held.pairs

theorem get?_erase (map : KeyMap α) (key other : String) :
    (map.erase key).get? other = if other = key then none else map.get? other := by
  have filtered := lookup_filter (fun name => decide (name ≠ key)) other map.pairs
  by_cases same : other = key <;> simpa [erase, filter, get?, same] using filtered

end KeyMap

end LaunchConfig
