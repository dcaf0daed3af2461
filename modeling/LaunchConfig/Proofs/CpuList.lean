import LaunchConfig.Proofs.CpuOrder
import LaunchConfig.Proofs.Names
import LaunchConfig.Proofs.Sections
import LaunchConfig.Proofs.Text

/-!
The texts that list processors. A list is cut at commas, blank parts count for nothing, and each
other part is a number or two numbers with a hyphen between them. Part after part adds what it
names to what was collected before; parts may name a processor again and in any order, which only
the sorting at the end makes up for. A list is refused for the first part that is neither, and
within the part for the first thing that is wrong with it.
-/
namespace LaunchConfig.CpuSet

/-- The parts of a list, the blank ones included. -/
def Part (spec : String) (part : List Char) : Prop :=
  part ∈ spec.toList.splitOn ','

/-- No character of the part is visible. -/
def Blank (part : List Char) : Prop :=
  ∀ c ∈ part, Text.isBlank c = true

/-- Digits that may follow a plus sign, with blanks around them. -/
def WritesNumber (text : List Char) (number : Nat) : Prop :=
  ∃ before sign digits after, text = before ++ (sign ++ digits) ++ after ∧
    Blank (before ++ after) ∧ (sign = [] ∨ sign = ['+']) ∧ Numeral.Writes digits number

/-- The text is the number of a processor. -/
def WritesCpu (text : List Char) (number : Nat) : Prop :=
  WritesNumber text number ∧ number ≤ 4095

/-- The part names the processors from the first to the last one, which may be the same. -/
inductive Covers (part : List Char) : Nat → Nat → Prop
  | single {number : Nat} (whole : '-' ∉ part) (written : WritesCpu part number) :
      Covers part number number
  | range {start stop : List Char} {first last : Nat} (cut : part = start ++ '-' :: stop)
      (earliest : '-' ∉ start) (written : WritesCpu start first) (written' : WritesCpu stop last)
      (ordered : first ≤ last) : Covers part first last

/-- The processor is one of those that the part names. -/
def Names (part : List Char) (number : Nat) : Prop :=
  ∃ first last, Covers part first last ∧ first ≤ number ∧ number ≤ last

/-- Why a text is no processor. A number beyond 64 bits is taken for no number. -/
inductive CpuFault (text : List Char) : Reason → Prop
  | above {number : Nat} (written : WritesNumber text number) (above : 4095 < number)
      (small : number < 2 ^ 64) : CpuFault text (.cpuAbove number 4095)
  | unread (unread : ∀ number, WritesNumber text number → 2 ^ 64 ≤ number) :
      CpuFault text (.notCpu (String.ofList text))

/-- Why a part names no processors. The start comes before the end, and both before their order. -/
inductive PartFault (part : List Char) : Reason → Prop
  | single {reason : Reason} (whole : '-' ∉ part) (fault : CpuFault part reason) :
      PartFault part reason
  | start {start stop : List Char} {reason : Reason} (cut : part = start ++ '-' :: stop)
      (earliest : '-' ∉ start) (fault : CpuFault start reason) : PartFault part reason
  | stop {start stop : List Char} {first : Nat} {reason : Reason}
      (cut : part = start ++ '-' :: stop) (earliest : '-' ∉ start)
      (written : WritesCpu start first) (fault : CpuFault stop reason) : PartFault part reason
  | reversed {start stop : List Char} {first last : Nat} (cut : part = start ++ '-' :: stop)
      (earliest : '-' ∉ start) (written : WritesCpu start first) (written' : WritesCpu stop last)
      (reversed : last < first) : PartFault part (.reversedRange (String.ofList part))

/-- The part is blank or names processors. -/
def Accepted (part : List Char) : Prop :=
  Blank part ∨ ∃ first last, Covers part first last

section Numbers

variable {text : List Char} {number : Nat}

theorem not_blank_of_writes {digits : List Char} (written : Numeral.Writes digits number) :
    ∀ c ∈ digits, Text.isBlank c = false := by
  intro c member
  obtain ⟨low, high⟩ := written.digits c member
  have range : 48 ≤ c.toNat ∧ c.toNat ≤ 57 := ⟨low, high⟩
  unfold Text.isBlank
  simp
  omega

/-- Trimming takes the blanks away that a written number may have around it. -/
theorem unsigned_trimmed_iff {limit : Nat} :
    Numeral.unsigned limit (Text.trimChars text) = .ok number ↔
      WritesNumber text number ∧ number ≤ limit := by
  rw [Numeral.unsigned_eq_ok_iff]
  constructor
  · rintro ⟨sign, digits, core, signed, written, within⟩
    obtain ⟨before, after, whole, blank⟩ := Text.exists_trimmed text
    exact ⟨⟨before, sign, digits, after, core ▸ whole, blank, signed, written⟩, within⟩
  · rintro ⟨⟨before, sign, digits, after, rfl, blank, signed, written⟩, within⟩
    refine ⟨sign, digits, Text.trimChars_padded blank ?_, signed, written, within⟩
    refine List.forall_mem_append.mpr ⟨?_, not_blank_of_writes written⟩
    rcases signed with rfl | rfl
    · simp
    · simp only [List.forall_mem_singleton]
      rfl

theorem cpu_eq_ok_iff : cpu text = .ok number ↔ WritesCpu text number := by
  have read := @unsigned_trimmed_iff text
  unfold cpu WritesCpu
  constructor
  · intro accepted
    split at accepted
    next => cases accepted
    next held unsigned =>
      split at accepted
      next small =>
        cases accepted
        exact ⟨(read.mp unsigned).1, small⟩
      next => cases accepted
  · rintro ⟨written, small⟩
    have fits : number ≤ Numeral.maxUnsigned := Numeral.le_maxUnsigned_iff.mpr (by omega)
    simp only [read.mpr ⟨written, fits⟩]
    exact if_pos small

theorem WritesCpu.unique {other : Nat} (written : WritesCpu text number)
    (written' : WritesCpu text other) : number = other :=
  Except.ok.inj ((cpu_eq_ok_iff.mpr written).symm.trans (cpu_eq_ok_iff.mpr written'))

theorem cpu_eq_error_iff {reason : Reason} : cpu text = .error reason ↔ CpuFault text reason := by
  have read := @unsigned_trimmed_iff text
  unfold cpu
  constructor
  · intro refused
    split at refused
    next fault unread =>
      cases refused
      refine .unread fun number written => ?_
      by_contra small
      have fits := Numeral.le_maxUnsigned_iff.mpr (Nat.lt_of_not_le small)
      cases unread.symm.trans (read.mpr ⟨written, fits⟩)
    next held unsigned =>
      split at refused
      next => cases refused
      next large =>
        cases refused
        obtain ⟨written, fits⟩ := read.mp unsigned
        exact .above written (Nat.lt_of_not_le large) (Numeral.le_maxUnsigned_iff.mp fits)
  · intro fault
    cases fault with
    | above written above small =>
      simp only [read.mpr ⟨written, Numeral.le_maxUnsigned_iff.mpr small⟩]
      exact if_neg (Nat.not_le_of_lt above)
    | unread unread =>
      split
      next => rfl
      next held unsigned =>
        obtain ⟨written, fits⟩ := read.mp unsigned
        have large := unread held written
        exact absurd (Numeral.le_maxUnsigned_iff.mp fits) (Nat.not_lt_of_le large)

end Numbers

section Parts

variable {part : List Char}

theorem Covers.range_le {first last : Nat} (covers : Covers part first last) :
    first ≤ last ∧ last ≤ 4095 := by
  cases covers with
  | single whole written => exact ⟨Nat.le_refl _, written.2⟩
  | range cut earliest written written' ordered => exact ⟨ordered, written'.2⟩

variable {cpus more : List Nat}

/-- A part adds the processors from the first to the last that it names. -/
theorem collect_eq_ok_iff : collect cpus part = .ok more ↔ ∃ first last,
    Covers part first last ∧ more = cpus ++ List.range' first (last + 1 - first) := by
  unfold collect
  constructor
  · intro accepted
    split at accepted
    next whole =>
      obtain ⟨number, single, same⟩ := bind_eq_ok_iff.mp accepted
      cases same
      have covers := Covers.single (Text.cut?_eq_none_iff.mp whole) (cpu_eq_ok_iff.mp single)
      exact ⟨number, number, covers, by rw [Nat.add_sub_cancel_left, List.range'_one]⟩
    next start stop divided =>
      obtain ⟨cut, earliest⟩ := Text.cut?_eq_some_iff.mp divided
      obtain ⟨low, read, accepted⟩ := bind_eq_ok_iff.mp accepted
      obtain ⟨high, read', accepted⟩ := bind_eq_ok_iff.mp accepted
      split at accepted
      next => cases accepted
      next ordered =>
        cases accepted
        exact ⟨low, high, .range cut earliest (cpu_eq_ok_iff.mp read) (cpu_eq_ok_iff.mp read')
          (Nat.le_of_not_lt ordered), rfl⟩
  · rintro ⟨first, last, covers, rfl⟩
    cases covers with
    | single whole written =>
      simp only [Text.cut?_eq_none_iff.mpr whole, cpu_eq_ok_iff.mpr written, ok_bind,
        Nat.add_sub_cancel_left, List.range'_one]
      rfl
    | range cut earliest written written' ordered =>
      simp only [Text.cut?_eq_some_iff.mpr ⟨cut, earliest⟩, cpu_eq_ok_iff.mpr written,
        cpu_eq_ok_iff.mpr written', ok_bind, if_neg (Nat.not_lt_of_le ordered)]
      rfl

theorem collect_eq_error_iff {reason : Reason} :
    collect cpus part = .error reason ↔ PartFault part reason := by
  unfold collect
  constructor
  · intro refused
    split at refused
    next whole =>
      rcases bind_eq_error_iff.mp refused with failed | ⟨number, -, failed⟩
      · exact .single (Text.cut?_eq_none_iff.mp whole) (cpu_eq_error_iff.mp failed)
      · cases failed
    next start stop divided =>
      obtain ⟨cut, earliest⟩ := Text.cut?_eq_some_iff.mp divided
      rcases bind_eq_error_iff.mp refused with failed | ⟨first, read, refused⟩
      · exact .start cut earliest (cpu_eq_error_iff.mp failed)
      rcases bind_eq_error_iff.mp refused with failed | ⟨last, read', refused⟩
      · exact .stop cut earliest (cpu_eq_ok_iff.mp read) (cpu_eq_error_iff.mp failed)
      split at refused
      next reversed =>
        cases refused
        exact .reversed cut earliest (cpu_eq_ok_iff.mp read) (cpu_eq_ok_iff.mp read') reversed
      next => cases refused
  · intro fault
    cases fault with
    | single whole fault =>
      simp only [Text.cut?_eq_none_iff.mpr whole, cpu_eq_error_iff.mpr fault]
      rfl
    | start cut earliest fault =>
      simp only [Text.cut?_eq_some_iff.mpr ⟨cut, earliest⟩, cpu_eq_error_iff.mpr fault]
      rfl
    | stop cut earliest written fault =>
      simp only [Text.cut?_eq_some_iff.mpr ⟨cut, earliest⟩, cpu_eq_ok_iff.mpr written,
        cpu_eq_error_iff.mpr fault]
      rfl
    | reversed cut earliest written written' reversed =>
      simp only [Text.cut?_eq_some_iff.mpr ⟨cut, earliest⟩, cpu_eq_ok_iff.mpr written,
        cpu_eq_ok_iff.mpr written', ok_bind, if_pos reversed]
      rfl

theorem Covers.not_fault {first last : Nat} {reason : Reason} (covers : Covers part first last) :
    ¬ PartFault part reason := by
  intro fault
  have step : collect [] part = .ok _ := collect_eq_ok_iff.mpr ⟨first, last, covers, rfl⟩
  cases step.symm.trans (collect_eq_error_iff.mpr fault)

theorem Covers.unique {first last first' last' : Nat} (covers : Covers part first last)
    (covers' : Covers part first' last') : first = first' ∧ last = last' := by
  cases covers with
  | single whole written =>
    cases covers' with
    | single _ again => exact ⟨written.unique again, written.unique again⟩
    | range cut => exact absurd (by simp [cut]) whole
  | range cut earliest written written' =>
    cases covers' with
    | single whole => exact absurd (by simp [cut]) whole
    | range cut' earliest' again again' =>
      have divided := Text.cut?_eq_some_iff.mpr ⟨cut, earliest⟩
      cases divided.symm.trans (Text.cut?_eq_some_iff.mpr ⟨cut', earliest'⟩)
      exact ⟨written.unique again, written'.unique again'⟩

theorem mem_collect_iff (step : collect cpus part = .ok more) {number : Nat} :
    number ∈ more ↔ number ∈ cpus ∨ Names part number := by
  obtain ⟨first, last, covers, rfl⟩ := collect_eq_ok_iff.mp step
  have ordered := covers.range_le.1
  have within : number ∈ List.range' first (last + 1 - first) ↔ first ≤ number ∧ number ≤ last := by
    rw [List.mem_range'_1]
    omega
  rw [List.mem_append, within]
  refine or_congr_right ⟨fun inside => ⟨first, last, covers, inside⟩, ?_⟩
  rintro ⟨_, _, covers', inside⟩
  obtain ⟨rfl, rfl⟩ := covers.unique covers'
  exact inside

end Parts

section Runs

variable {parts : List (List Char)} {cpus more : List Nat}

/-- Whatever is there before, the parts of a list add the processors that they name. -/
theorem mem_collected_iff (run : parts.foldlM collect cpus = .ok more) {number : Nat} :
    number ∈ more ↔ number ∈ cpus ∨ ∃ part ∈ parts, Names part number := by
  induction parts generalizing cpus with
  | nil =>
    cases run
    simp
  | cons part rest ih =>
    rw [List.foldlM_cons] at run
    obtain ⟨next, step, run⟩ := bind_eq_ok_iff.mp run
    rw [ih run, mem_collect_iff step, or_assoc, List.exists_mem_cons_iff]

theorem covers_of_collected (run : parts.foldlM collect cpus = .ok more) :
    ∀ part ∈ parts, ∃ first last, Covers part first last := by
  induction parts generalizing cpus with
  | nil => simp
  | cons part rest ih =>
    rw [List.foldlM_cons] at run
    obtain ⟨next, step, run⟩ := bind_eq_ok_iff.mp run
    obtain ⟨first, last, covers, -⟩ := collect_eq_ok_iff.mp step
    exact List.forall_mem_cons.mpr ⟨⟨first, last, covers⟩, ih run⟩

-- What was collected before the faulty part does not show in the error.
theorem collected_eq_error_iff {reason : Reason} :
    parts.foldlM collect cpus = .error reason ↔ ∃ before part after,
      parts = before ++ part :: after ∧
        (∀ earlier ∈ before, ∃ first last, Covers earlier first last) ∧ PartFault part reason := by
  induction parts generalizing cpus with
  | nil => simp [pure, Except.pure]
  | cons part rest ih =>
    rw [List.foldlM_cons, bind_eq_error_iff, collect_eq_error_iff]
    constructor
    · rintro (fault | ⟨next, step, failed⟩)
      · exact ⟨[], part, rest, rfl, by simp, fault⟩
      · obtain ⟨first, last, covers, -⟩ := collect_eq_ok_iff.mp step
        obtain ⟨before, bad, after, rfl, fine, fault⟩ := ih.mp failed
        exact ⟨part :: before, bad, after, rfl,
          List.forall_mem_cons.mpr ⟨⟨first, last, covers⟩, fine⟩, fault⟩
    · rintro ⟨before, bad, after, divided, fine, fault⟩
      cases before with
      | nil =>
        obtain ⟨rfl, rfl⟩ := List.cons.inj divided
        exact Or.inl fault
      | cons other before =>
        obtain ⟨rfl, rfl⟩ := List.cons.inj divided
        obtain ⟨⟨first, last, covers⟩, fine⟩ := List.forall_mem_cons.mp fine
        exact Or.inr ⟨_, collect_eq_ok_iff.mpr ⟨first, last, covers, rfl⟩,
          ih.mpr ⟨before, bad, after, rfl, fine, fault⟩⟩

end Runs

section Lists

variable {spec : String} {set : CpuSet}

/-- The list is refused for its first part that is neither blank nor names processors. -/
def Refused (spec : String) (reason : Reason) : Prop :=
  ∃ before part after, spec.toList.splitOn ',' = before ++ part :: after ∧
    (∀ earlier ∈ before, Accepted earlier) ∧ ¬ Blank part ∧ PartFault part reason

theorem not_blank_iff {part : List Char} : (!part.all Text.isBlank) = true ↔ ¬ Blank part := by
  simp [Blank]

theorem mem_listed_iff {part : List Char} : part ∈ listed spec ↔ Part spec part ∧ ¬ Blank part := by
  rw [listed, List.mem_filter, Text.parts_eq_splitOn, not_blank_iff]
  rfl

theorem Covers.not_blank {part : List Char} {first last : Nat} (covers : Covers part first last) :
    ¬ Blank part := by
  intro blank
  have digit : ∃ c ∈ part, Text.isBlank c = false := by
    have inside : ∀ {text number}, WritesCpu text number → ∃ c ∈ text, Text.isBlank c = false := by
      rintro text number ⟨⟨before, sign, digits, after, rfl, -, -, written⟩, -⟩
      obtain ⟨c, member⟩ := List.exists_mem_of_ne_nil _ written.nonempty
      exact ⟨c, by simp [member], not_blank_of_writes written c member⟩
    cases covers with
    | single whole written => exact inside written
    | range cut earliest written written' ordered =>
      obtain ⟨c, member, visible⟩ := inside written
      exact ⟨c, cut ▸ List.mem_append_left _ member, visible⟩
  obtain ⟨c, member, visible⟩ := digit
  cases visible.symm.trans (blank c member)

theorem accepted_iff_of_visible {part : List Char} (visible : ¬ Blank part) :
    Accepted part ↔ ∃ first last, Covers part first last :=
  or_iff_right visible

theorem parse_eq_ok_iff : parse spec = .ok set ↔
    ∃ cpus, (listed spec).foldlM collect [] = .ok cpus ∧
      set = ⟨spec, (ordered cpus).map UInt64.ofNat⟩ := by
  unfold parse
  rw [bind_eq_ok_iff]
  refine exists_congr fun cpus => and_congr_right fun _ => ?_
  constructor
  · exact fun made => (Except.ok.inj made).symm
  · rintro rfl
    rfl

-- Blank parts are left out before the others are looked at.
theorem parse_eq_error_iff {reason : Reason} :
    parse spec = .error reason ↔ Refused spec reason := by
  have first : parse spec = .error reason ↔ (listed spec).foldlM collect [] = .error reason := by
    unfold parse
    exact bind_eq_error_iff_of_rest fun _ => ⟨_, rfl⟩
  rw [first, collected_eq_error_iff, listed, Text.parts_eq_splitOn]
  constructor
  · rintro ⟨before, part, after, divided, fine, fault⟩
    obtain ⟨front, rest, whole, rfl, cons⟩ := List.filter_eq_append_iff.mp divided
    obtain ⟨skipped, after', rfl, blank, visible, -⟩ := List.filter_eq_cons_iff.mp cons
    refine ⟨front ++ skipped, part, after', by rw [whole, List.append_assoc], ?_,
      not_blank_iff.mp visible, fault⟩
    intro earlier member
    by_cases empty : Blank earlier
    · exact Or.inl empty
    · rcases List.mem_append.mp member with inside | inside
      · exact Or.inr (fine earlier (List.mem_filter.mpr ⟨inside, not_blank_iff.mpr empty⟩))
      · exact absurd (not_blank_iff.mpr empty) (blank earlier inside)
  · rintro ⟨before, part, after, whole, fine, visible, fault⟩
    refine ⟨before.filter fun part => !part.all Text.isBlank, part,
      after.filter fun part => !part.all Text.isBlank, ?_, ?_, fault⟩
    · rw [whole, List.filter_append, List.filter_cons, if_pos (not_blank_iff.mpr visible)]
    · intro earlier member
      obtain ⟨inside, seen⟩ := List.mem_filter.mp member
      exact (accepted_iff_of_visible (not_blank_iff.mp seen)).mp (fine earlier inside)

theorem exists_parse_iff :
    (∃ set, parse spec = .ok set) ↔ ∀ part, Part spec part → Accepted part := by
  constructor
  · rintro ⟨set, parsed⟩ part inside
    by_cases blank : Blank part
    · exact Or.inl blank
    · obtain ⟨cpus, run, -⟩ := parse_eq_ok_iff.mp parsed
      exact Or.inr (covers_of_collected run part (mem_listed_iff.mpr ⟨inside, blank⟩))
  · intro accepted
    rcases ok_or_error (parse spec) with success | ⟨reason, failed⟩
    · exact success
    · obtain ⟨before, part, after, whole, -, visible, fault⟩ := parse_eq_error_iff.mp failed
      have inside : Part spec part := by simp [Part, whole]
      obtain ⟨first, last, covers⟩ := (accepted_iff_of_visible visible).mp (accepted part inside)
      exact absurd fault covers.not_fault

theorem mem_listed_names_iff {number : Nat} :
    (∃ part ∈ listed spec, Names part number) ↔ ∃ part, Part spec part ∧ Names part number := by
  refine exists_congr fun part => ?_
  rw [mem_listed_iff, and_assoc]
  refine and_congr_right fun _ => and_iff_right_of_imp ?_
  rintro ⟨first, last, covers, -⟩
  exact covers.not_blank

section Collected

variable {cpus : List Nat} (run : (listed spec).foldlM collect [] = .ok cpus)
include run

theorem mem_collected_listed_iff {number : Nat} :
    number ∈ cpus ↔ ∃ part, Part spec part ∧ Names part number := by
  rw [mem_collected_iff run, ← mem_listed_names_iff]
  simp

theorem le_of_collected : ∀ number ∈ cpus, number ≤ 4095 := by
  intro number member
  obtain ⟨part, -, first, last, covers, -, high⟩ := (mem_collected_listed_iff run).mp member
  exact high.trans covers.range_le.2

theorem toNat_of_collected : ∀ number ∈ ordered cpus, (UInt64.ofNat number).toNat = number := by
  intro number member
  have small := le_of_collected run number (mem_ordered_iff.mp member)
  exact UInt64.toNat_ofNat_of_lt' (by unfold UInt64.size; omega)

end Collected

variable (parsed : parse spec = .ok set)
include parsed

theorem mem_cpus_iff {number : UInt64} : number ∈ set.cpus ↔ ∃ part, Part spec part ∧
    ∃ first last, Covers part first last ∧ first ≤ number.toNat ∧ number.toNat ≤ last := by
  obtain ⟨cpus, run, rfl⟩ := parse_eq_ok_iff.mp parsed
  refine Iff.trans ?_ (mem_collected_listed_iff run)
  rw [← mem_ordered_iff, List.mem_map]
  constructor
  · rintro ⟨n, member, rfl⟩
    rwa [toNat_of_collected run n member]
  · exact fun member => ⟨_, member, UInt64.ofNat_toNat⟩

theorem cpus_ascending : set.cpus.Pairwise (· < ·) := by
  obtain ⟨cpus, run, rfl⟩ := parse_eq_ok_iff.mp parsed
  rw [List.pairwise_map]
  apply (ordered_ascending cpus).imp_of_mem
  intro first second member member' below
  rw [UInt64.lt_iff_toNat_lt, toNat_of_collected run _ member, toNat_of_collected run _ member']
  exact below

theorem cpus_le : ∀ number ∈ set.cpus, number.toNat ≤ 4095 := by
  intro number member
  obtain ⟨part, -, first, last, covers, -, high⟩ := (mem_cpus_iff parsed).mp member
  exact high.trans covers.range_le.2

theorem size_le : set.size ≤ 4096 := by
  obtain ⟨cpus, run, rfl⟩ := parse_eq_ok_iff.mp parsed
  rw [size, List.length_map]
  exact length_ordered_le (le_of_collected run)

theorem isEmpty_iff : set.isEmpty = true ↔ ∀ part, Part spec part → Blank part := by
  rw [isEmpty, List.isEmpty_iff, List.eq_nil_iff_forall_not_mem]
  simp only [mem_cpus_iff parsed]
  constructor
  · intro nobody part inside
    rcases exists_parse_iff.mp ⟨set, parsed⟩ part inside with blank | ⟨first, last, covers⟩
    · exact blank
    · have exactly : (UInt64.ofNat first).toNat = first :=
        UInt64.toNat_ofNat_of_lt' (by have := covers.range_le; unfold UInt64.size; omega)
      have named := exactly.le.trans covers.range_le.1
      exact absurd ⟨part, inside, first, last, covers, exactly.ge, named⟩ (nobody (UInt64.ofNat first))
  · rintro blank number ⟨part, inside, first, last, covers, -⟩
    exact covers.not_blank (blank part inside)

theorem cpus_eq_nil_iff : set.cpus = [] ↔ listed spec = [] := by
  rw [← List.isEmpty_iff, ← isEmpty, isEmpty_iff parsed, List.eq_nil_iff_forall_not_mem]
  simp only [mem_listed_iff, not_and_not_right]

end Lists

/-- A list of processors is understood when all its parts are accepted, and only then. It has the
processors that its parts name, in order and each once; what is wrong with a list is what is wrong
with the first part that is not accepted. -/
theorem parse_grammar (spec : String) :
    ((∃ set, parse spec = .ok set) ↔ ∀ part, Part spec part → Accepted part) ∧
    (∀ set, parse spec = .ok set →
      set.spec = spec ∧ set.cpus.Pairwise (· < ·) ∧ (∀ number ∈ set.cpus, number.toNat ≤ 4095) ∧
      set.size ≤ 4096 ∧
      (∀ number, number ∈ set.cpus ↔ ∃ part, Part spec part ∧
        ∃ first last, Covers part first last ∧ first ≤ number.toNat ∧ number.toNat ≤ last) ∧
      (set.isEmpty = true ↔ ∀ part, Part spec part → Blank part)) ∧
    ∀ fault, (parse spec).mapError (ConfigError.invalidValue Simulation.cpusKey) = .error fault ↔
      ∃ reason, Refused spec reason ∧ fault = .invalidValue "WORKER_TASKSET" reason := by
  refine ⟨exists_parse_iff, ?_, ?_⟩
  · intro set parsed
    exact ⟨spec_of_parse parsed, cpus_ascending parsed, cpus_le parsed, size_le parsed,
      fun number => mem_cpus_iff parsed, isEmpty_iff parsed⟩
  · intro fault
    simp only [mapError_eq_error_iff, parse_eq_error_iff, Simulation.cpusKey]

end LaunchConfig.CpuSet
