import LaunchConfig.Json.Printer
import LaunchConfig.Json.Reader
import LaunchConfig.Proofs.Numeral
import LaunchConfig.Proofs.Text

/-!
Reading back JSON text. The reader skips all that the printer puts between the parts of a value, and
it stops where the printer did, whatever follows; so both layouts of a value are read as the value,
as long as its integers have 64 bits and its brackets are not nested too deep.
-/
namespace LaunchConfig.Json

/-- Values that can be read back with so many brackets left: no number has a fraction or more than
64 bits. -/
inductive Fits : Nat → Json → Prop
  | null {level : Nat} : Fits level .null
  | boolean {level : Nat} {held : Bool} : Fits level (.boolean held)
  | integer {level : Nat} {held : Int} (small : held.natAbs ≤ Numeral.maxUnsigned) :
      Fits level (.integer held)
  | string {level : Nat} {held : String} : Fits level (.string held)
  | array {level : Nat} {items : List Json} (inner : ∀ item ∈ items, Fits level item) :
      Fits (level + 1) (.array items)
  | object {level : Nat} {members : List (String × Json)}
      (inner : ∀ member ∈ members, Fits level member.2) : Fits (level + 1) (.object members)

section Strings

variable {rest cs behind : List Char}

theorem hexValue?_digitChar : ∀ digit < 16, Text.hexValue? digit.digitChar = some digit := by
  decide

/-- A character is written as an escape of one letter, by its number, or as it is. -/
theorem writeChar_cases (c : Char) :
    (∃ letter, StringState.letter? letter = some c ∧ writeChar c = ['\\', letter]) ∨
    (c.toNat < 0x20 ∧ writeChar c =
      ['\\', 'u', '0', '0', (c.toNat / 16).digitChar, (c.toNat % 16).digitChar]) ∨
    (c ≠ '\\' ∧ c ≠ '"' ∧ ¬ c.toNat < 0x20 ∧ writeChar c = [c]) := by
  unfold writeChar
  split
  · next same => exact Or.inl ⟨'"', by rw [same]; rfl, rfl⟩
  split
  · next same => exact Or.inl ⟨'\\', by rw [same]; rfl, rfl⟩
  split
  · next same => exact Or.inl ⟨'b', by rw [same]; rfl, rfl⟩
  split
  · next same => exact Or.inl ⟨'t', by rw [same]; rfl, rfl⟩
  split
  · next same => exact Or.inl ⟨'n', by rw [same]; rfl, rfl⟩
  split
  · next same => exact Or.inl ⟨'f', by rw [same]; rfl, rfl⟩
  split
  · next same => exact Or.inl ⟨'r', by rw [same]; rfl, rfl⟩
  split
  · next control => exact Or.inr (Or.inl ⟨control, rfl⟩)
  · next inside noEscape _ _ _ _ _ visible =>
    exact Or.inr (Or.inr ⟨noEscape, inside, visible, rfl⟩)

theorem readString_letter {letter held : Char} (known : StringState.letter? letter = some held)
    (later : readString .plain rest = some (cs, behind)) :
    readString .plain ('\\' :: letter :: rest) = some (held :: cs, behind) := by
  have noNumber : letter ≠ 'u' := by
    rintro rfl
    cases known
  simp [readString, StringState.step, noNumber, known, later]

theorem readString_digits {c : Char} (control : c.toNat < 0x20)
    (later : readString .plain rest = some (cs, behind)) :
    readString .plain ('\\' :: 'u' :: '0' :: '0' :: (c.toNat / 16).digitChar ::
      (c.toNat % 16).digitChar :: rest) = some (c :: cs, behind) := by
  have high := hexValue?_digitChar (c.toNat / 16) (by omega)
  have low := hexValue?_digitChar (c.toNat % 16) (by omega)
  have zero : Text.hexValue? '0' = some 0 := rfl
  have number : c.toNat / 16 * 16 + c.toNat % 16 = c.toNat := by omega
  have single : ¬ (0xD800 ≤ c.toNat ∧ c.toNat < 0xDC00) := by omega
  simp [readString, StringState.step, StringState.complete, zero, high, low, number, single,
    Text.scalar?_toNat, later]

theorem readString_writeChar (c : Char) (later : readString .plain rest = some (cs, behind)) :
    readString .plain (writeChar c ++ rest) = some (c :: cs, behind) := by
  rcases writeChar_cases c with ⟨letter, known, written⟩ | ⟨control, written⟩ |
    ⟨noEscape, inside, visible, written⟩ <;> rw [written]
  · exact readString_letter known later
  · exact readString_digits control later
  · simp [readString, StringState.step, noEscape, inside, visible, later]

theorem readString_written (cs rest : List Char) :
    readString .plain (cs.flatMap writeChar ++ '"' :: rest) = some (cs, rest) := by
  induction cs with
  | nil => simp [readString]
  | cons c cs ih =>
    rw [List.flatMap_cons, List.append_assoc]
    exact readString_writeChar c ih

end Strings

section Tokens

/-- What follows is no part of a number or a word. -/
def Ends (rest : List Char) : Prop :=
  ∀ c, rest.head? = some c → isTokenChar c = false

theorem ends_nil : Ends [] := nofun

theorem ends_cons {c : Char} {rest : List Char} (stops : isTokenChar c = false) :
    Ends (c :: rest) := by
  rintro _ ⟨⟩
  exact stops

theorem ne_of_isTokenChar {c d : Char} (part : isTokenChar c = true)
    (stops : isTokenChar d = false) : c ≠ d := by
  rintro rfl
  cases stops.symm.trans part

theorem not_isGap_of_isTokenChar {c : Char} (part : isTokenChar c = true) : isGap c = false := by
  have other := fun d (stops : isTokenChar d = false) => ne_of_isTokenChar part stops
  simp [isGap, other ' ' rfl, other '\t' rfl, other '\n' rfl, other '\r' rfl]

theorem isTokenChar_of_isDigit {c : Char} (digit : c.isDigit = true) : isTokenChar c = true := by
  simp [isTokenChar, Char.isAlphanum, digit]

theorem isTokenChar_of_decimal (held : Int) :
    ∀ c ∈ Numeral.decimal held, isTokenChar c = true := by
  have digits : ∀ c ∈ Nat.toDigits 10 held.natAbs, isTokenChar c = true :=
    fun c member => isTokenChar_of_isDigit (Numeral.isDigit_of_toDigits c member)
  unfold Numeral.decimal
  split
  · exact List.forall_mem_cons.mpr ⟨rfl, digits⟩
  · exact digits

theorem wholeRun?_toDigits (n : Nat) :
    wholeRun? (Nat.toDigits 10 n) = some (Nat.toDigits 10 n, []) := by
  have digits : ∀ c ∈ Nat.toDigits 10 n, c.isDigit = true := Numeral.isDigit_of_toDigits
  have taken : (Nat.toDigits 10 n).takeWhile Char.isDigit = Nat.toDigits 10 n := by
    rwa [List.takeWhile_eq_self_iff]
  have left : (Nat.toDigits 10 n).dropWhile Char.isDigit = [] := by
    rwa [List.dropWhile_eq_nil_iff]
  have written : (Nat.toDigits 10 n).isEmpty = false := by
    rw [List.isEmpty_eq_false_iff]
    exact Nat.toDigits_ne_nil
  simp [wholeRun?, digitRun?, taken, left, written, Numeral.no_leading_zero n]

theorem number?_decimal {held : Int} (small : held.natAbs ≤ Numeral.maxUnsigned) :
    number? (Numeral.decimal held) = some (.integer held) := by
  have run := wholeRun?_toDigits held.natAbs
  have value := Nat.ofDigitChars_ten_toDigits (n := held.natAbs)
  unfold Numeral.decimal
  generalize size : held.natAbs = n at small run value ⊢
  split
  · next negative =>
    have back : -(n : Int) = held := by omega
    have notZero : n ≠ 0 := by omega
    simp [number?, run, small, notZero, back, value]
  · next positive =>
    have back : (n : Int) = held := by omega
    obtain ⟨c, tail, written, digit⟩ := Numeral.toDigits_cons n
    have unsigned : c ≠ '-' := by
      rintro rfl
      cases digit
    rw [written] at run value ⊢
    simp [number?, unsigned, run, value, small, back]

/-- A token is read to its end, whatever follows, as long as it is no part of the token. -/
theorem readToken_append {token rest : List Char} {value : Json}
    (chars : ∀ c ∈ token, isTokenChar c = true) (ends : Ends rest)
    (alone : readToken token = some (value, [])) :
    readToken (token ++ rest) = some (value, rest) := by
  have taken : (token ++ rest).takeWhile isTokenChar = token.takeWhile isTokenChar := by
    rw [List.takeWhile_append_of_pos chars, List.takeWhile_eq_self_iff.mpr chars]
    cases rest with
    | nil => simp
    | cons c tail => simp [ends c rfl]
  have left : (token ++ rest).dropWhile isTokenChar = rest := Text.dropWhile_padded chars ends
  simp only [readToken] at alone ⊢
  rw [taken, left]
  obtain ⟨held, known, same⟩ := Option.map_eq_some_iff.mp alone
  rw [known, Option.map_some, (Prod.mk.inj same).1]

-- A word writes no number, so a written integer is none of the words.
theorem readToken_decimal {held : Int} (small : held.natAbs ≤ Numeral.maxUnsigned) :
    readToken (Numeral.decimal held) = some (.integer held, []) := by
  have value := number?_decimal small
  have noWord : ∀ word, number? word = none → Numeral.decimal held ≠ word := by
    rintro word nothing rfl
    cases nothing.symm.trans value
  have taken := List.takeWhile_eq_self_iff.mpr (isTokenChar_of_decimal held)
  have left := List.dropWhile_eq_nil_iff.mpr (isTokenChar_of_decimal held)
  simp only [readToken, taken, left, noWord ['n', 'u', 'l', 'l'] rfl,
    noWord ['t', 'r', 'u', 'e'] rfl, noWord ['f', 'a', 'l', 's', 'e'] rfl, if_false, value,
    Option.map_some]

end Tokens

section Gaps

variable {layout : Layout} {level depth : Nat} {gaps cs rest : List Char}

theorem isGap_of_lineBreak : ∀ c ∈ layout.lineBreak depth, isGap c = true := by
  cases layout with
  | compact => simp [Layout.lineBreak]
  | indented => simp [Layout.lineBreak, isGap]

theorem exists_colon (layout : Layout) :
    ∃ gaps, layout.colon = ':' :: gaps ∧ ∀ c ∈ gaps, isGap c = true := by
  cases layout with
  | compact => exact ⟨[], rfl, by simp⟩
  | indented => exact ⟨[' '], rfl, by simp [isGap]⟩

theorem dropWhile_lineBreak {c : Char} (visible : isGap c = false) :
    (layout.lineBreak depth ++ c :: cs).dropWhile isGap = c :: cs := by
  refine Text.dropWhile_padded isGap_of_lineBreak ?_
  rintro _ ⟨⟩
  exact visible

theorem ends_lineBreak (ends : Ends rest) : Ends (layout.lineBreak depth ++ rest) := by
  cases layout with
  | compact => exact ends
  | indented => exact ends_cons rfl

theorem read_gaps (skipped : ∀ c ∈ gaps, isGap c = true) :
    read level (gaps ++ cs) = read level cs := by
  cases level <;> simp only [read, List.dropWhile_append_of_pos skipped]

theorem readItems_gaps {steps : Nat} (skipped : ∀ c ∈ gaps, isGap c = true) :
    readItems (read level) steps (gaps ++ cs) = readItems (read level) steps cs := by
  cases steps <;> simp only [readItems, read_gaps skipped]

theorem readMembers_gaps {steps : Nat} (skipped : ∀ c ∈ gaps, isGap c = true) :
    readMembers (read level) steps (gaps ++ cs) = readMembers (read level) steps cs := by
  cases steps <;> simp only [readMembers, readMember, List.dropWhile_append_of_pos skipped]

end Gaps

section Values

variable {layout : Layout} {level depth : Nat} {rest : List Char}

/-- What is written of a value, at any depth, is read as the value. -/
def ReadsBack (layout : Layout) (level : Nat) (json : Json) : Prop :=
  ∀ depth rest, Ends rest → read level (write layout depth json ++ rest) = some (json, rest)

theorem read_token {c : Char} {tail : List Char} {json : Json}
    (chars : ∀ d ∈ c :: tail, isTokenChar d = true) (ends : Ends rest)
    (alone : readToken (c :: tail) = some (json, [])) :
    read level (c :: tail ++ rest) = some (json, rest) := by
  have first : isTokenChar c = true := chars c List.mem_cons_self
  have other := fun d (stops : isTokenChar d = false) => ne_of_isTokenChar first stops
  have plain : read level (c :: tail ++ rest) = readToken (c :: tail ++ rest) := by
    cases level <;> simp [read, readPlain, not_isGap_of_isTokenChar first, other '[' rfl,
      other '\x7b' rfl, other '"' rfl]
  rw [plain]
  exact readToken_append chars ends alone

theorem read_string (held : String) :
    read level (writeString held ++ rest) = some (.string held, rest) := by
  have visible : isGap '"' = false := rfl
  have written := readString_written held.toList rest
  cases level <;>
    simp [read, writeString, readPlain, visible, written, String.ofList_toList]

/-- A value starts neither with a gap nor with a closing bracket. -/
theorem write_cons (layout : Layout) (depth : Nat) {json : Json} (fits : Fits level json) :
    ∃ c tail, write layout depth json = c :: tail ∧ isGap c = false ∧ c ≠ ']' := by
  cases fits with
  | null => exact ⟨_, _, rfl, rfl, by decide⟩
  | @boolean _ held => cases held <;> exact ⟨_, _, rfl, rfl, by decide⟩
  | @integer _ held small =>
    obtain ⟨c, tail, written, -⟩ := Numeral.decimal_cons held
    have first := isTokenChar_of_decimal held c (written ▸ List.mem_cons_self)
    exact ⟨c, tail, written, not_isGap_of_isTokenChar first, ne_of_isTokenChar first rfl⟩
  | string => exact ⟨_, _, rfl, rfl, by decide⟩
  | @array _ items inner => cases items <;> exact ⟨_, _, rfl, rfl, by decide⟩
  | @object _ members inner => cases members <;> exact ⟨_, _, rfl, rfl, by decide⟩

theorem ends_writeItems (layout : Layout) (depth : Nat) (items : List Json) (rest : List Char) :
    Ends (writeItems layout depth items ++ rest) := by
  cases items with
  | nil =>
    rw [writeItems, List.append_assoc]
    exact ends_lineBreak (ends_cons rfl)
  | cons item items => exact ends_cons rfl

theorem ends_writeMembers (layout : Layout) (depth : Nat) (members : List (String × Json))
    (rest : List Char) : Ends (writeMembers layout depth members ++ rest) := by
  cases members with
  | nil =>
    rw [writeMembers, List.append_assoc]
    exact ends_lineBreak (ends_cons rfl)
  | cons member members => exact ends_cons rfl

theorem length_lt_writeItems (layout : Layout) (depth : Nat) (items : List Json) :
    items.length < (writeItems layout depth items).length := by
  induction items with
  | nil => simp [writeItems]
  | cons item items ih =>
    simp only [writeItems, List.length_append, List.length_cons]
    omega

theorem length_lt_writeMembers (layout : Layout) (depth : Nat) (members : List (String × Json)) :
    members.length < (writeMembers layout depth members).length := by
  induction members with
  | nil => simp [writeMembers]
  | cons member members ih =>
    simp only [writeMembers, List.length_append, List.length_cons]
    omega

-- Each item leaves its reader before the comma or the bracket, and takes one step.
theorem readItems_write (depth : Nat) (rest : List Char) {steps : Nat} {item : Json}
    {items : List Json}
    (inner : ∀ value ∈ item :: items, ReadsBack layout level value)
    (enough : items.length < steps) :
    readItems (read level) steps
      (write layout (depth + 1) item ++ (writeItems layout depth items ++ rest)) =
        some (item :: items, rest) := by
  induction items generalizing item steps with
  | nil =>
    obtain ⟨steps, rfl⟩ := Nat.exists_eq_add_one_of_ne_zero (Nat.ne_zero_of_lt enough)
    have first := inner item List.mem_cons_self (depth + 1) _ (ends_writeItems layout depth [] rest)
    have closed : isGap ']' = false := rfl
    rw [readItems, first]
    simp [writeItems, dropWhile_lineBreak closed]
  | cons next items ih =>
    obtain ⟨steps, rfl⟩ := Nat.exists_eq_add_one_of_ne_zero (Nat.ne_zero_of_lt enough)
    have first := inner item List.mem_cons_self (depth + 1) _
      (ends_writeItems layout depth (next :: items) rest)
    have later := ih (fun value member => inner value (List.mem_cons_of_mem item member))
      (Nat.lt_of_succ_lt_succ enough)
    have comma : isGap ',' = false := rfl
    rw [readItems, first]
    simp [writeItems, comma, readItems_gaps isGap_of_lineBreak, later]

theorem readMember_write (depth : Nat) (name : String) {value : Json}
    (back : ReadsBack layout level value) (ends : Ends rest) :
    readMember (read level)
      (writeString name ++ (layout.colon ++ (write layout depth value ++ rest))) =
        some ((name, value), rest) := by
  obtain ⟨gaps, colon, skipped⟩ := exists_colon layout
  have quote : isGap '"' = false := rfl
  have between : isGap ':' = false := rfl
  have named := readString_written name.toList (':' :: gaps ++ (write layout depth value ++ rest))
  rw [colon]
  simp only [List.cons_append] at named ⊢
  simp [readMember, writeString, quote, named, between, read_gaps skipped, back depth rest ends]

theorem readMembers_write (depth : Nat) (rest : List Char) {steps : Nat} {name : String}
    {value : Json} {members : List (String × Json)}
    (inner : ∀ member ∈ (name, value) :: members, ReadsBack layout level member.2)
    (enough : members.length < steps) :
    readMembers (read level) steps
      (writeString name ++ (layout.colon ++ (write layout (depth + 1) value ++
        (writeMembers layout depth members ++ rest)))) =
          some ((name, value) :: members, rest) := by
  induction members generalizing name value steps with
  | nil =>
    obtain ⟨steps, rfl⟩ := Nat.exists_eq_add_one_of_ne_zero (Nat.ne_zero_of_lt enough)
    have first := readMember_write (depth + 1) name (inner (name, value) List.mem_cons_self)
      (ends_writeMembers layout depth [] rest)
    have closed : isGap '\x7d' = false := rfl
    rw [readMembers, first]
    simp [writeMembers, dropWhile_lineBreak closed]
  | cons next members ih =>
    obtain ⟨steps, rfl⟩ := Nat.exists_eq_add_one_of_ne_zero (Nat.ne_zero_of_lt enough)
    have first := readMember_write (depth + 1) name (inner (name, value) List.mem_cons_self)
      (ends_writeMembers layout depth (next :: members) rest)
    have later := ih (fun member among => inner member (List.mem_cons_of_mem _ among))
      (Nat.lt_of_succ_lt_succ enough)
    have comma : isGap ',' = false := rfl
    rw [readMembers, first]
    simp [writeMembers, comma, readMembers_gaps isGap_of_lineBreak, later]

theorem read_array {items : List Json} (fits : ∀ item ∈ items, Fits level item)
    (inner : ∀ item ∈ items, ReadsBack layout level item) :
    read (level + 1) (write layout depth (.array items) ++ rest) = some (.array items, rest) := by
  have bracket : isGap '[' = false := rfl
  cases items with
  | nil =>
    have closed : isGap ']' = false := rfl
    simp [write, read, readArray, bracket, closed]
  | cons item items =>
    obtain ⟨c, tail, written, visible, noBracket⟩ :=
      write_cons layout (depth + 1) (fits item List.mem_cons_self)
    have enough : items.length < (tail ++ (writeItems layout depth items ++ rest)).length + 1 := by
      have fewer := length_lt_writeItems layout depth items
      simp only [List.length_append]
      omega
    have held := readItems_write depth rest inner enough
    simp only [written, List.cons_append] at held
    simp [-List.length_append, write, written, read, bracket, readArray,
      dropWhile_lineBreak visible, noBracket, held]

theorem read_object {members : List (String × Json)}
    (inner : ∀ member ∈ members, ReadsBack layout level member.2) :
    read (level + 1) (write layout depth (.object members) ++ rest) =
      some (.object members, rest) := by
  have brace : isGap '\x7b' = false := rfl
  match members with
  | [] =>
    have closed : isGap '\x7d' = false := rfl
    simp [write, read, readObject, brace, closed]
  | (name, value) :: members =>
    have quote : isGap '"' = false := rfl
    let text := name.toList.flatMap writeChar ++ ('"' :: (layout.colon ++
      (write layout (depth + 1) value ++ (writeMembers layout depth members ++ rest))))
    have enough : members.length < text.length + 1 := by
      have fewer := length_lt_writeMembers layout depth members
      simp only [text, List.length_append, List.length_cons]
      omega
    have held := readMembers_write depth rest inner enough
    simp only [writeString, List.cons_append, List.append_assoc, List.nil_append] at held
    simp [-List.length_append, write, writeString, read, brace, readObject,
      dropWhile_lineBreak quote, held, text]

/-- What is written of a value is read as the value, and nothing of what follows is read. -/
theorem read_write {json : Json} (layout : Layout) (fits : Fits level json) :
    ReadsBack layout level json := by
  induction fits with
  | null => exact fun depth rest ends => read_token (List.all_eq_true.mp rfl) ends rfl
  | @boolean _ held =>
    intro depth rest ends
    cases held with
    | false => exact read_token (List.all_eq_true.mp rfl) ends rfl
    | true => exact read_token (List.all_eq_true.mp rfl) ends rfl
  | @integer _ held small =>
    intro depth rest ends
    have chars := isTokenChar_of_decimal held
    have alone := readToken_decimal small
    obtain ⟨c, tail, written, -⟩ := Numeral.decimal_cons held
    rw [write, written]
    rw [written] at chars alone
    exact read_token chars ends alone
  | string => exact fun depth rest ends => read_string _
  | array inner ih => exact fun depth rest ends => read_array inner ih
  | object inner ih => exact fun depth rest ends => read_object ih

/-- Both layouts are understood: a text of a value is understood as the value. -/
theorem parse?_write {json : Json} (fits : Fits maxLevel json) (layout : Layout) (depth : Nat) :
    parse? (String.ofList (write layout depth json)) = some json := by
  have whole := read_write layout fits depth [] ends_nil
  simp only [List.append_nil] at whole
  simp [parse?, whole]

/-- Different values are written differently. -/
theorem indented_inj {left right : Json} (leftFits : Fits maxLevel left)
    (rightFits : Fits maxLevel right) : left.indented = right.indented ↔ left = right := by
  constructor
  · intro same
    have leftBack := parse?_write leftFits .indented 0
    have rightBack := parse?_write rightFits .indented 0
    exact Option.some.inj (leftBack.symm.trans ((congrArg parse? same).trans rightBack))
  · exact congrArg indented

end Values

section Fits

variable {level : Nat}

attribute [simp] Fits.null Fits.boolean Fits.string

@[simp] theorem fits_array {items : List Json} :
    Fits (level + 1) (.array items) ↔ ∀ item ∈ items, Fits level item :=
  ⟨fun fits => by cases fits; assumption, .array⟩

@[simp] theorem fits_object {members : List (String × Json)} :
    Fits (level + 1) (.object members) ↔ ∀ member ∈ members, Fits level member.2 :=
  ⟨fun fits => by cases fits; assumption, .object⟩

@[simp] theorem fits_integer {held : Int} :
    Fits level (.integer held) ↔ held.natAbs ≤ Numeral.maxUnsigned :=
  ⟨fun fits => by cases fits; assumption, .integer⟩

end Fits

end LaunchConfig.Json
