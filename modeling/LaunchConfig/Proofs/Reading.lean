import LaunchConfig.Proofs.Store

/-!
Typed reads of a store. A read gives back what stands under its key, in another form but with
nothing left out; and where the type suits the key, a built store has something to read.
-/
namespace LaunchConfig

namespace Reader

/-- What the reader makes of a value tells which value it was. -/
def Faithful {α : Type} (reader : Reader α) : Prop :=
  ∀ {left right held}, reader.convert left = .ok held → reader.convert right = .ok held →
    left = right

variable {value : Value}

theorem text_eq_ok_iff {held : String} : text.convert value = .ok held ↔ value = .text held := by
  cases value <;> simp [text]

theorem boolean_eq_ok_iff {held : Bool} :
    boolean.convert value = .ok held ↔ value = .boolean held := by
  cases value <;> simp [boolean]

theorem duration_eq_ok_iff {held : Duration} : duration.convert value = .ok held ↔
    ∃ seconds, value = .seconds seconds ∧ .ofSeconds seconds = held := by
  cases value <;> simp [duration]

theorem unsigned_eq_ok_iff {α : Type} {name : String} {width : Nat} {ofNat : Nat → α}
    {toNat : α → Nat} (below : ∀ held, toNat held < 2 ^ width)
    (back : ∀ held, ofNat (toNat held) = held) (exactly : ∀ n < 2 ^ width, toNat (ofNat n) = n)
    {held : α} : (unsigned name width ofNat).convert value = .ok held ↔
      ∃ n : Int64, value = .integer n ∧ n.toInt = toNat held := by
  cases value with
  | integer n =>
    have small := below held
    simp only [unsigned, Nat.pow_eq, Value.integer.injEq, exists_eq_left']
    split
    next fits =>
      rw [Except.ok.injEq]
      constructor
      · rintro rfl
        rw [exactly _ (by omega)]
        omega
      · intro same
        rw [same, Int.toNat_natCast, back]
    next wide =>
      simp only [reduceCtorEq, false_iff]
      omega
  | _ => simp [unsigned]

theorem u64_eq_ok_iff {held : UInt64} : u64.convert value = .ok held ↔
    ∃ n : Int64, value = .integer n ∧ n.toInt = held.toNat :=
  unsigned_eq_ok_iff UInt64.toNat_lt (fun _ => UInt64.ofNat_toNat)
    fun _ => UInt64.toNat_ofNat_of_lt'

theorem u16_eq_ok_iff {held : UInt16} : u16.convert value = .ok held ↔
    ∃ n : Int64, value = .integer n ∧ n.toInt = held.toNat :=
  unsigned_eq_ok_iff UInt16.toNat_lt (fun _ => UInt16.ofNat_toNat)
    fun _ => UInt16.toNat_ofNat_of_lt'

theorem optional_text_eq_ok_iff {held : Option String} :
    text.optional.convert value = .ok held ↔ value = Value.ofOption (held.map .text) := by
  cases value <;> cases held <;> simp [optional, text, Value.ofOption, Except.map]

section Form

variable {α β γ : Type} {reader : Reader α} {form : β → Value} {measure : β → γ} {measured : α → γ}

theorem faithful_of_form (injective : ∀ {left right}, measure left = measure right → left = right)
    (reads : ∀ {value held}, reader.convert value = .ok held ↔
      ∃ inner, value = form inner ∧ measure inner = measured held) : reader.Faithful := by
  intro left right held first second
  obtain ⟨inner, rfl, same⟩ := reads.mp first
  obtain ⟨other, rfl, same'⟩ := reads.mp second
  rw [injective (same.trans same'.symm)]

end Form

theorem text_faithful : text.Faithful := fun first second =>
  (text_eq_ok_iff.mp first).trans (text_eq_ok_iff.mp second).symm

theorem boolean_faithful : boolean.Faithful := fun first second =>
  (boolean_eq_ok_iff.mp first).trans (boolean_eq_ok_iff.mp second).symm

theorem optional_text_faithful : text.optional.Faithful := fun first second =>
  (optional_text_eq_ok_iff.mp first).trans (optional_text_eq_ok_iff.mp second).symm

theorem duration_faithful : duration.Faithful :=
  faithful_of_form (congrArg Duration.secs) duration_eq_ok_iff

theorem u64_faithful : u64.Faithful :=
  faithful_of_form Int64.toInt_inj.mp u64_eq_ok_iff

theorem u16_faithful : u16.Faithful :=
  faithful_of_form Int64.toInt_inj.mp u16_eq_ok_iff

/-- Whatever may stand under the key can be read. -/
def Suits {α : Type} (reader : Reader α) (spec : KeySpec) : Prop :=
  ∀ value, spec.Stores value → ∃ held, reader.convert value = .ok held

variable {spec : KeySpec}

theorem text_suits (kind : spec.kind = .text) (filled : spec.nullable = false) :
    text.Suits spec := by
  intro value stores
  cases value <;> simp [KeySpec.Stores, kind, filled, text] at stores ⊢

theorem boolean_suits (kind : spec.kind = .boolean) (filled : spec.nullable = false) :
    boolean.Suits spec := by
  intro value stores
  cases value <;> simp [KeySpec.Stores, kind, filled, boolean] at stores ⊢

theorem duration_suits (kind : spec.kind = .duration) (filled : spec.nullable = false) :
    duration.Suits spec := by
  intro value stores
  cases value <;> simp [KeySpec.Stores, kind, filled, duration] at stores ⊢

theorem optional_text_suits (kind : spec.kind = .text) : text.optional.Suits spec := by
  intro value stores
  cases value <;> simp [KeySpec.Stores, kind, optional, text, Except.map] at stores ⊢

theorem u64_suits (kind : spec.kind = .count) (filled : spec.nullable = false) :
    u64.Suits spec := by
  intro value stores
  cases value with
  | integer n =>
    have below := n.toInt_lt
    have small : n.toInt < Nat.pow 2 64 := by
      rw [Nat.pow_eq]
      omega
    exact ⟨_, if_pos ⟨stores.2, small⟩⟩
  | _ => simp [KeySpec.Stores, kind, filled] at stores

end Reader

namespace Store

variable {store : Store} {key : String}

/-- An integer stands under the key. -/
def Counts (store : Store) (key : String) (count : Nat) : Prop :=
  ∃ n : Int64, store.value key = .ok (.integer n) ∧ n.toInt = count

theorem get_eq_ok_iff {α : Type} {reader : Reader α} {held : α} : store.get reader key = .ok held ↔
    ∃ value, store.value key = .ok value ∧ reader.convert value = .ok held := by
  simp only [get, bind_eq_ok_iff, Reader.read, mapError_eq_ok_iff]

theorem get_eq_ok_iff_of_form {α β : Type} {reader : Reader α} {held : α} {form : β → Value}
    {fits : β → Prop}
    (reads : ∀ {value}, reader.convert value = .ok held ↔
      ∃ inner, value = form inner ∧ fits inner) :
    store.get reader key = .ok held ↔ ∃ inner, store.value key = .ok (form inner) ∧ fits inner := by
  simp only [get_eq_ok_iff, reads]
  constructor
  · rintro ⟨_, read, inner, rfl, fit⟩
    exact ⟨inner, read, fit⟩
  · rintro ⟨inner, read, fit⟩
    exact ⟨_, read, inner, rfl, fit⟩

theorem get_text_eq_ok_iff {held : String} :
    store.get .text key = .ok held ↔ store.value key = .ok (.text held) := by
  simp [get_eq_ok_iff, Reader.text_eq_ok_iff]

theorem get_boolean_eq_ok_iff {held : Bool} :
    store.get .boolean key = .ok held ↔ store.value key = .ok (.boolean held) := by
  simp [get_eq_ok_iff, Reader.boolean_eq_ok_iff]

theorem get_optional_text_eq_ok_iff {held : Option String} :
    store.get Reader.text.optional key = .ok held ↔
      store.value key = .ok (Value.ofOption (held.map .text)) := by
  simp [get_eq_ok_iff, Reader.optional_text_eq_ok_iff]

theorem get_duration_eq_ok_iff {held : Duration} : store.get .duration key = .ok held ↔
    ∃ seconds, store.value key = .ok (.seconds seconds) ∧ .ofSeconds seconds = held :=
  get_eq_ok_iff_of_form Reader.duration_eq_ok_iff

theorem get_u64_eq_ok_iff {held : UInt64} :
    store.get .u64 key = .ok held ↔ store.Counts key held.toNat :=
  get_eq_ok_iff_of_form Reader.u64_eq_ok_iff

theorem get_u16_eq_ok_iff {held : UInt16} :
    store.get .u16 key = .ok held ↔ store.Counts key held.toNat :=
  get_eq_ok_iff_of_form Reader.u16_eq_ok_iff

theorem get_u16_eq_error_iff {n : Int64} {fault : ConfigError}
    (read : store.value key = .ok (.integer n)) (sign : 0 ≤ n.toInt) :
    store.get .u16 key = .error fault ↔ 65535 < n.toInt ∧ fault = .typeMismatch key "u16"
      ("integer " ++ String.ofList (Numeral.decimal n.toInt) ++ " out of range") := by
  rw [get, read, ok_bind, Reader.read, mapError_eq_error_iff]
  simp only [Reader.u16, Reader.unsigned, Nat.pow_eq]
  by_cases wide : 65535 < n.toInt
  · rw [if_neg (by omega)]
    simp [wide]
  · rw [if_pos (by omega)]
    simp [wide]

theorem Sound.exists_get {α : Type} {reader : Reader α} {spec : KeySpec} (sound : store.Sound)
    (listed : Schema.lookup? key = some spec) (plain : spec.derived = false)
    (suits : reader.Suits spec) : ∃ held, store.get reader key = .ok held := by
  obtain ⟨value, stored, stores⟩ := sound.stored key listed plain
  obtain ⟨held, made⟩ := suits value stores
  exact ⟨held, get_eq_ok_iff.mpr ⟨value, value_of_stored stored, made⟩⟩

end Store

/-- A read of one key, with what came out of it. -/
structure Reading where
  {Held : Type}
  reader : Reader Held
  key : String
  held : Held

namespace Reading

/-- The store gives this under the key. -/
def From (store : Store) (reading : Reading) : Prop :=
  store.get reading.reader reading.key = .ok reading.held

theorem value_eq {left right : Store} {reading : Reading} (faithful : reading.reader.Faithful)
    (first : reading.From left) (second : reading.From right) :
    left.value reading.key = right.value reading.key := by
  obtain ⟨value, read, made⟩ := Store.get_eq_ok_iff.mp first
  obtain ⟨value', read', made'⟩ := Store.get_eq_ok_iff.mp second
  rw [read, read', faithful made made']

theorem from_congr {left right : Store} {reading : Reading}
    (same : left.value reading.key = right.value reading.key) :
    reading.From left ↔ reading.From right := by
  rw [From, From, Store.get, Store.get, same]

end Reading

/-- All of these readings come from the store. -/
def Store.Gives (store : Store) (readings : List Reading) : Prop :=
  ∀ reading ∈ readings, reading.From store

section Gives

variable {store : Store}

@[simp] theorem Store.gives_nil : store.Gives [] := by simp [Gives]

@[simp] theorem Store.gives_cons {reading : Reading} {rest : List Reading} :
    store.Gives (reading :: rest) ↔
      store.get reading.reader reading.key = .ok reading.held ∧ store.Gives rest :=
  List.forall_mem_cons

@[simp] theorem Store.gives_append {first second : List Reading} :
    store.Gives (first ++ second) ↔ store.Gives first ∧ store.Gives second :=
  List.forall_mem_append

end Gives

end LaunchConfig
