import LaunchConfig.Proofs.Numeral
import LaunchConfig.Proofs.TomlQuoted
import LaunchConfig.Toml.Reader

/-!
Reading back keys and values. A value of a flat table is a text, an integer, a truth value or an
array of texts; whatever may follow it on its line, its reader stops where the printer did.
-/
namespace LaunchConfig.Toml

/-- What may follow a value: nothing, a line break, or the rest of an array. -/
def Ends (rest : List Char) : Prop :=
  ∀ c, rest.head? = some c → c = '\n' ∨ c = ',' ∨ c = ']'

theorem Ends.ne_cons {rest : List Char} (ends : Ends rest) {c : Char}
    (other : ¬ (c = '\n' ∨ c = ',' ∨ c = ']')) (tail : List Char) : rest ≠ c :: tail := by
  rintro rfl
  exact other (ends c rfl)

section Texts

theorem readPlain_line {cs : List Char} (single : ∀ tail, cs ≠ '"' :: '"' :: tail) :
    readPlain ('"' :: cs) =
      (readLine .plain cs).map fun (held, behind) => (.text (String.ofList held), behind) := by
  unfold readPlain
  split
  · next block => exact absurd (List.cons.inj block).2 (single _)
  · next line => rw [(List.cons.inj line).2]
  · next other => cases (List.cons.inj other).1
  · next other => cases (List.cons.inj other).1
  · next _ line _ _ => exact absurd rfl (line cs)

theorem readPlain_literal {cs : List Char} (single : ∀ tail, cs ≠ '\'' :: '\'' :: tail) :
    readPlain ('\'' :: cs) =
      (readLiteral cs).map fun (held, behind) => (.text (String.ofList held), behind) := by
  unfold readPlain
  split
  · next other => cases (List.cons.inj other).1
  · next other => cases (List.cons.inj other).1
  · next block => exact absurd (List.cons.inj block).2 (single _)
  · next line => rw [(List.cons.inj line).2]
  · next other => exact absurd rfl (other cs)

theorem readPlain_styled {style : TextStyle} {cs rest : List Char} (admits : style.Admits cs)
    (ends : Ends rest) :
    readPlain (writeStyled style cs ++ rest) = some (.text (String.ofList cs), rest) := by
  have noQuote : ∀ tail, rest ≠ '"' :: tail := ends.ne_cons (by decide)
  have noTick : ∀ tail, rest ≠ '\'' :: tail := ends.ne_cons (by decide)
  cases style with
  | line =>
    have single : ∀ tail, escaped false 0 0 cs ++ '"' :: rest ≠ '"' :: '"' :: tail := by
      intro tail same
      cases cs with
      | nil => exact noQuote tail (List.cons.inj same).2
      | cons c cs =>
        have starts := congrArg List.head? same
        by_cases quote : c = '"'
        · simp [escaped, quote] at starts
        · cases needed : escape? false c with
          | some written =>
            rcases escape?_eq_some needed with ⟨letter, -, rfl⟩ | ⟨-, rfl⟩ <;>
              simp [escaped, quote, needed] at starts
          | none => simp [escaped, quote, needed] at starts
    simp only [writeStyled, List.cons_append, List.append_assoc, List.nil_append]
    rw [readPlain_line single, readLine_escaped]
    rfl
  | literalLine =>
    have single : ∀ tail, cs ++ '\'' :: rest ≠ '\'' :: '\'' :: tail := by
      intro tail same
      cases cs with
      | nil => exact noTick tail (List.cons.inj same).2
      | cons c cs => exact (admits c List.mem_cons_self).2 (List.cons.inj same).1
    simp only [writeStyled, List.cons_append, List.append_assoc, List.nil_append]
    rw [readPlain_literal single, readLiteral_append admits]
    rfl
  | block =>
    obtain ⟨noReturn, oneLine⟩ := head?_escaped cs ('"' :: '"' :: rest)
    have read := readBlock_escaped cs (Nat.zero_le 2) noQuote
    simp only [writeStyled, List.cons_append, List.append_assoc, List.nil_append, readPlain]
    rw [dropLineBreak_blockStart noReturn oneLine, read]
    rfl
  | literalBlock =>
    obtain ⟨rows, plain⟩ := admits
    have noReturn : (cs ++ '\'' :: '\'' :: '\'' :: rest).head? ≠ some '\r' := by
      cases cs with
      | nil => simp
      | cons c cs => simpa using (plain c List.mem_cons_self).1
    have oneLine : (cs ++ '\'' :: '\'' :: '\'' :: rest).head? = some '\n' → '\n' ∈ cs := by
      cases cs with
      | nil => simp
      | cons c cs =>
        intro starts
        simp [Option.some.inj starts]
    have read := readBlock_literal rows plain noTick
    simp only [writeStyled, List.cons_append, List.append_assoc, List.nil_append, readPlain]
    rw [dropLineBreak_blockStart noReturn oneLine, read]
    rfl

theorem readPlain_text (held : String) {rest : List Char} (ends : Ends rest) :
    readPlain (writeText held ++ rest) = some (.text held, rest) := by
  rw [writeText, readPlain_styled (textStyle_admits held.toList) ends, String.ofList_toList]

end Texts

section Scalars

theorem Ends.takeWhile {rest : List Char} (ends : Ends rest) :
    rest.takeWhile isTokenChar = [] ∧ rest.dropWhile isTokenChar = rest := by
  cases rest with
  | nil => exact ⟨rfl, rfl⟩
  | cons c tail => rcases ends c rfl with rfl | rfl | rfl <;> exact ⟨rfl, rfl⟩

-- A date and its time are set apart by a blank, and no blank follows a value of a document.
theorem readScalar_token {token rest : List Char} {held : Toml}
    (chars : ∀ c ∈ token, isTokenChar c = true) (known : scalar? token = some held)
    (ends : Ends rest) : readScalar (token ++ rest) = some (held, rest) := by
  have taken : (token ++ rest).takeWhile isTokenChar = token := by
    rw [List.takeWhile_append_of_pos chars, ends.takeWhile.1, List.append_nil]
  have left : (token ++ rest).dropWhile isTokenChar = rest := by
    rw [List.dropWhile_append_of_pos chars, ends.takeWhile.2]
  unfold readScalar
  simp only [taken, left]
  split
  · exact absurd rfl (ends.ne_cons (by decide) _)
  · simp [known]

-- A digit is no separator, so the digits are taken one by one.
theorem ungroup?_digits {digits : List Char} (some_ : digits ≠ [])
    (all : ∀ c ∈ digits, c.isDigit = true) : ungroup? Char.isDigit digits = some digits := by
  induction digits with
  | nil => exact absurd rfl some_
  | cons c rest ih =>
    cases rest with
    | nil => simp [ungroup?, all]
    | cons next rest =>
      have later := ih (by simp) fun other member => all other (List.mem_cons_of_mem c member)
      have noGroup : next ≠ '_' := by
        rintro rfl
        exact absurd (all '_' (by simp)) (by decide)
      have first : c.isDigit = true := all c List.mem_cons_self
      unfold ungroup?
      split
      · next same => cases same
      · next same => cases same
      · next same => cases same; exact absurd rfl noGroup
      · next same => cases same; simp [first, later]

theorem whole?_toDigits (n : Nat) : whole? (Nat.toDigits 10 n) = some (Nat.toDigits 10 n) := by
  have digits := ungroup?_digits Nat.toDigits_ne_nil (Numeral.isDigit_of_toDigits (n := n))
  simp [whole?, digits, Numeral.no_leading_zero n]

theorem splitSign_toDigits (n : Nat) : splitSign (Nat.toDigits 10 n) = (false, Nat.toDigits 10 n) := by
  unfold splitSign
  split
  · next minus => exact absurd (Numeral.isDigit_of_toDigits '-' (minus ▸ List.mem_cons_self)) (by decide)
  · next plus => exact absurd (Numeral.isDigit_of_toDigits '+' (plus ▸ List.mem_cons_self)) (by decide)
  · rfl

theorem integer?_of_whole {token rest digits : List Char} {negative : Bool}
    (noBase : ∀ lead tail, token ≠ '0' :: lead :: tail) (signed : splitSign token = (negative, rest))
    (number : whole? rest = some digits) :
    integer? token = some (bounded? negative (Nat.ofDigitChars 10 digits 0)) := by
  unfold integer?
  split
  · exact absurd rfl (noBase _ _)
  · simp only [signed, number, Option.map_some]

theorem integer?_decimal (held : Int64) :
    integer? (Numeral.decimal held.toInt) = some (some held) := by
  have above := held.le_toInt
  have below := held.toInt_lt
  have number := whole?_toDigits held.toInt.natAbs
  unfold Numeral.decimal
  split
  · have fits : held.toInt.natAbs ≤ Numeral.maxSigned + 1 := by
      unfold Numeral.maxSigned
      omega
    have same : -(held.toInt.natAbs : Int) = held.toInt := by omega
    have noBase : ∀ lead tail, '-' :: Nat.toDigits 10 held.toInt.natAbs ≠ '0' :: lead :: tail := by
      simp
    have signed : splitSign ('-' :: Nat.toDigits 10 held.toInt.natAbs) = (true, _) := rfl
    rw [integer?_of_whole noBase signed number, Nat.ofDigitChars_ten_toDigits]
    simp only [bounded?, fits, same, if_true, Int64.ofInt_toInt]
  · have fits : held.toInt.natAbs ≤ Numeral.maxSigned := Numeral.le_maxSigned_iff.mpr (by omega)
    have same : (held.toInt.natAbs : Int) = held.toInt := by omega
    have noBase : ∀ lead tail, Nat.toDigits 10 held.toInt.natAbs ≠ '0' :: lead :: tail := by
      intro lead tail zero
      exact Numeral.no_leading_zero held.toInt.natAbs ⟨by simp [zero], by simp [zero]⟩
    rw [integer?_of_whole noBase (splitSign_toDigits _) number, Nat.ofDigitChars_ten_toDigits]
    simp only [bounded?, fits, same, Bool.false_eq_true, if_false, if_true, Int64.ofInt_toInt]

theorem isTokenChar_of_isDigit {c : Char} (digit : c.isDigit = true) : isTokenChar c = true := by
  simp [isTokenChar, Char.isAlphanum, digit]

theorem isTokenChar_decimal (n : Int) : ∀ c ∈ Numeral.decimal n, isTokenChar c = true := by
  unfold Numeral.decimal
  split
  · intro c member
    rcases List.mem_cons.mp member with rfl | digit
    · rfl
    · exact isTokenChar_of_isDigit (Numeral.isDigit_of_toDigits c digit)
  · exact fun c digit => isTokenChar_of_isDigit (Numeral.isDigit_of_toDigits c digit)

theorem scalar?_decimal (held : Int64) :
    scalar? (Numeral.decimal held.toInt) = some (.integer held) := by
  obtain ⟨c, tail, written, first⟩ := Numeral.decimal_cons held.toInt
  have number := integer?_decimal held
  rw [written] at number ⊢
  have noTrue : c :: tail ≠ ['t', 'r', 'u', 'e'] := by
    rintro ⟨⟩
    exact absurd first (by decide)
  have noFalse : c :: tail ≠ ['f', 'a', 'l', 's', 'e'] := by
    rintro ⟨⟩
    exact absurd first (by decide)
  simp only [scalar?, noTrue, noFalse, if_false, number]

end Scalars

section Values

/-- The values of flat tables. -/
def Flat : Toml → Prop
  | .text _ | .integer _ | .boolean _ => True
  | .array items => ∀ item ∈ items, ∃ held, item = .text held
  | .float _ | .moment _ | .table _ => False

theorem writeText_cons (held : String) :
    ∃ c tail, writeText held = c :: tail ∧ (c = '"' ∨ c = '\'') := by
  unfold writeText
  cases textStyle held.toList with
  | line => exact ⟨_, _, rfl, Or.inl rfl⟩
  | literalLine => exact ⟨_, _, rfl, Or.inr rfl⟩
  | block => exact ⟨_, _, rfl, Or.inl rfl⟩
  | literalBlock => exact ⟨_, _, rfl, Or.inr rfl⟩

theorem readPlain_of_head {c : Char} {tail : List Char} (noQuote : c ≠ '"') (noTick : c ≠ '\'') :
    readPlain (c :: tail) = readScalar (c :: tail) := by
  unfold readPlain
  split
  · next other => exact absurd (List.cons.inj other).1 noQuote
  · next other => exact absurd (List.cons.inj other).1 noQuote
  · next other => exact absurd (List.cons.inj other).1 noTick
  · next other => exact absurd (List.cons.inj other).1 noTick
  · rfl

theorem readValue_of_head {c : Char} {tail : List Char} (level : Nat) (noArray : c ≠ '[')
    (noTable : c ≠ '\x7b') : readValue level (c :: tail) = readPlain (c :: tail) := by
  cases level with
  | zero => rfl
  | succ level =>
    unfold readValue
    split
    · next other => exact absurd (List.cons.inj other).1 noArray
    · next other => exact absurd (List.cons.inj other).1 noTable
    · rfl

theorem readValue_text (level : Nat) (held : String) {rest : List Char} (ends : Ends rest) :
    readValue level (writeText held ++ rest) = some (.text held, rest) := by
  have read := readPlain_text held ends
  obtain ⟨c, tail, written, quote⟩ := writeText_cons held
  rw [written, List.cons_append] at read ⊢
  rw [readValue_of_head level _ _, read]
  · rintro rfl
    exact absurd quote (by decide)
  · rintro rfl
    exact absurd quote (by decide)

theorem readValue_token {c : Char} {token rest : List Char} {held : Toml} (level : Nat)
    (chars : ∀ other ∈ c :: token, isTokenChar other = true) (known : scalar? (c :: token) = some held)
    (ends : Ends rest) : readValue level (c :: token ++ rest) = some (held, rest) := by
  have other : ∀ opening, isTokenChar opening = false → c ≠ opening := by
    rintro opening noToken rfl
    cases noToken.symm.trans (chars c List.mem_cons_self)
  rw [List.cons_append, readValue_of_head level (other _ rfl) (other _ rfl),
    readPlain_of_head (other _ rfl) (other _ rfl)]
  exact readScalar_token chars known ends

theorem readValue_integer (level : Nat) (held : Int64) {rest : List Char} (ends : Ends rest) :
    readValue level (Numeral.decimal held.toInt ++ rest) = some (.integer held, rest) := by
  have chars := isTokenChar_decimal held.toInt
  have known := scalar?_decimal held
  obtain ⟨c, tail, written, -⟩ := Numeral.decimal_cons held.toInt
  rw [written] at chars known ⊢
  exact readValue_token level chars known ends

theorem readValue_boolean (level : Nat) (held : Bool) {rest : List Char} (ends : Ends rest) :
    readValue level (write (.boolean held) ++ rest) = some (.boolean held, rest) := by
  cases held with
  | true =>
    have chars : ['t', 'r', 'u', 'e'].all isTokenChar = true := rfl
    rw [write]
    exact readValue_token level (List.all_eq_true.mp chars) rfl ends
  | false =>
    have chars : ['f', 'a', 'l', 's', 'e'].all isTokenChar = true := rfl
    rw [write]
    exact readValue_token level (List.all_eq_true.mp chars) rfl ends

theorem skipGaps_of_ink {c : Char} {rest : List Char} (noBreak : c ≠ '\n') (noReturn : c ≠ '\r')
    (noComment : c ≠ '#') (noBlank : isSpace c = false) :
    skipGaps false (c :: rest) = some (c :: rest) := by
  simp [skipGaps, noBreak, noReturn, noComment, noBlank]

theorem skipGaps_text (held : String) (rest : List Char) :
    skipGaps false (writeText held ++ rest) = some (writeText held ++ rest) := by
  obtain ⟨c, tail, written, quote⟩ := writeText_cons held
  rw [written]
  rcases quote with rfl | rfl
  · exact skipGaps_of_ink (by decide) (by decide) (by decide) rfl
  · exact skipGaps_of_ink (by decide) (by decide) (by decide) rfl

theorem readItems_item {readItem : List Char → Option (Toml × List Char)} {cs : List Char}
    (steps : Nat) (more : cs.head? ≠ some ']') : readItems readItem (steps + 1) cs =
      (readItem cs).bind fun (item, rest) => (skipGaps false rest).bind fun rest =>
        match rest with
        | ',' :: rest => (skipGaps false rest).bind fun rest =>
            (readItems readItem steps rest).map fun (items, behind) => (item :: items, behind)
        | ']' :: rest => some ([item], rest)
        | _ => none := by
  conv =>
    lhs
    unfold readItems
  split
  · exact absurd rfl more
  · rfl

theorem head?_writeText (held : String) (rest : List Char) :
    (writeText held ++ rest).head? ≠ some ']' := by
  obtain ⟨c, tail, written, quote⟩ := writeText_cons held
  rw [written]
  rintro ⟨⟩
  exact absurd quote (by decide)

-- Each item is read up to the comma or the bracket behind it; the steps count the items.
theorem readItems_texts {level steps : Nat} (held : String) (more : List String) (rest : List Char)
    (enough : more.length < steps) :
    readItems (readValue level) steps
        (writeText held ++ (writeItems (more.map Toml.text) ++ rest)) =
      some (.text held :: more.map Toml.text, rest) := by
  have inside : ∀ c tail, (c = ',' ∨ c = ']') → Ends (c :: tail) := by
    rintro c tail ends other ⟨⟩
    exact Or.inr ends
  induction more generalizing held steps with
  | nil =>
    obtain ⟨fewer, rfl⟩ : ∃ fewer, steps = fewer + 1 := ⟨steps - 1, by simp at enough; omega⟩
    have stops : skipGaps false (']' :: rest) = some (']' :: rest) :=
      skipGaps_of_ink (by decide) (by decide) (by decide) rfl
    rw [readItems_item fewer (head?_writeText held _)]
    simp only [List.map_nil, writeItems, List.cons_append, List.nil_append]
    rw [readValue_text level held (inside _ _ (Or.inr rfl)), Option.bind_some]
    simp only [stops, Option.bind_some]
  | cons next more ih =>
    obtain ⟨fewer, rfl⟩ : ∃ fewer, steps = fewer + 1 := ⟨steps - 1, by omega⟩
    have stops : ∀ tail, skipGaps false (',' :: tail) = some (',' :: tail) := fun tail =>
      skipGaps_of_ink (by decide) (by decide) (by decide) rfl
    have later := @ih fewer next (by simpa using enough)
    rw [readItems_item fewer (head?_writeText held _)]
    simp only [List.map_cons, writeItems, write, List.cons_append, List.nil_append,
      List.append_assoc]
    rw [readValue_text level held (inside _ _ (Or.inl rfl)), Option.bind_some]
    have gap : skipGaps false (' ' :: (writeText next ++ (writeItems (more.map Toml.text) ++ rest)))
        = some (writeText next ++ (writeItems (more.map Toml.text) ++ rest)) := by
      simpa [skipGaps, isSpace] using skipGaps_text next _
    simp only [stops, Option.bind_some, gap, later, Option.map_some]

theorem length_writeItems (items : List Toml) : items.length < (writeItems items).length := by
  induction items with
  | nil => simp [writeItems]
  | cons item rest ih =>
    simp only [writeItems, List.length_append, List.length_cons]
    omega

theorem exists_map_text {items : List Toml} (texts : ∀ item ∈ items, ∃ held, item = .text held) :
    ∃ names : List String, items = names.map Toml.text := by
  induction items with
  | nil => exact ⟨[], rfl⟩
  | cons item rest ih =>
    obtain ⟨held, rfl⟩ := texts item List.mem_cons_self
    obtain ⟨names, rfl⟩ := ih fun other member => texts other (List.mem_cons_of_mem _ member)
    exact ⟨held :: names, rfl⟩

theorem readArray_texts (level : Nat) (names : List String) (rest : List Char) :
    readValue (level + 1) (write (.array (names.map Toml.text)) ++ rest) =
      some (.array (names.map Toml.text), rest) := by
  cases names with
  | nil =>
    have stops : skipGaps false (']' :: rest) = some (']' :: rest) :=
      skipGaps_of_ink (by decide) (by decide) (by decide) rfl
    simp [write, readValue, readArray, stops, readItems]
  | cons held more =>
    have gap := skipGaps_text held (writeItems (more.map Toml.text) ++ rest)
    have enough : more.length < (writeText held ++ (writeItems (more.map Toml.text) ++ rest)).length + 1 := by
      have fewer := length_writeItems (more.map Toml.text)
      simp only [List.length_map, List.length_append] at fewer ⊢
      omega
    simp only [List.map_cons, write, List.cons_append, List.append_assoc, readValue, readArray, gap,
      Option.bind_some, readItems_texts held more rest enough, Option.map_some]

/-- A value of a flat table is read back whole. -/
theorem readValue_write {held : Toml} (flat : held.Flat) {rest : List Char} (ends : Ends rest) :
    readValue maxLevel (write held ++ rest) = some (held, rest) := by
  cases held with
  | text held => simpa [write] using readValue_text maxLevel held ends
  | integer held => simpa [write] using readValue_integer maxLevel held ends
  | boolean held => exact readValue_boolean maxLevel held ends
  | array items =>
    obtain ⟨names, rfl⟩ := exists_map_text flat
    exact readArray_texts 79 names rest
  | float held => exact flat.elim
  | moment held => exact flat.elim
  | table entries => exact flat.elim

end Values

end LaunchConfig.Toml
