import LaunchConfig.Proofs.Text
import LaunchConfig.Toml.Printer
import LaunchConfig.Toml.Quoted

/-!
Reading back a text that was written with quotes. The readers take a written character at a time
and never stop within it, so each of the four ways to write a text is undone by its reader, whatever
follows the closing quotes.
-/
namespace LaunchConfig.Toml

theorem hexValue?_digit : ∀ digit < 16, Text.hexValue? digit.digitChar.toUpper = some digit := by
  decide

theorem hexValue?_mod (n : Nat) : Text.hexValue? (n % 16).digitChar.toUpper = some (n % 16) :=
  hexValue?_digit _ (Nat.mod_lt n (by decide))

theorem fourDigits_value {n : Nat} (small : n < 65536) :
    ((n / 4096 % 16 * 16 + n / 256 % 16) * 16 + n / 16 % 16) * 16 + n % 16 = n := by
  omega

/-- The letters of escapes are none that begin something else after a backslash. -/
theorem letter?_ordinary {letter held : Char} (known : letter? letter = some held) :
    letter ≠ 'x' ∧ letter ≠ 'u' ∧ letter ≠ 'U' ∧ letter ≠ '\n' ∧ letter ≠ '\r' ∧
      letter ≠ ' ' ∧ letter ≠ '\t' := by
  refine ⟨?_, ?_, ?_, ?_, ?_, ?_, ?_⟩ <;>
  · rintro rfl
    cases known

-- An escape is a letter after the backslash, or the number of a control character.
theorem escape?_eq_some {block : Bool} {c : Char} {written : List Char}
    (needed : escape? block c = some written) :
    (∃ letter, letter? letter = some c ∧ written = ['\\', letter]) ∨
      c.toNat < 65536 ∧ written = '\\' :: 'u' :: fourDigits c.toNat := by
  unfold escape? at needed
  split at needed
  · next same => exact Or.inl ⟨'b', by rw [same]; rfl, (Option.some.inj needed).symm⟩
  split at needed
  · next same => exact Or.inl ⟨'t', by rw [same]; rfl, (Option.some.inj needed).symm⟩
  split at needed
  · next same =>
    split at needed
    · cases needed
    · exact Or.inl ⟨'n', by rw [same]; rfl, (Option.some.inj needed).symm⟩
  split at needed
  · next same => exact Or.inl ⟨'f', by rw [same]; rfl, (Option.some.inj needed).symm⟩
  split at needed
  · next same => exact Or.inl ⟨'r', by rw [same]; rfl, (Option.some.inj needed).symm⟩
  split at needed
  · next same => exact Or.inl ⟨'\\', by rw [same]; rfl, (Option.some.inj needed).symm⟩
  split at needed
  · next control =>
    refine Or.inr ⟨?_, (Option.some.inj needed).symm⟩
    simp only [isControl, Bool.or_eq_true, decide_eq_true_eq, beq_iff_eq] at control
    omega
  · cases needed

-- Every character that the printer leaves alone is one that the readers take as it is.
theorem isPlain_of_not_control {c : Char} (visible : isControl c = false) : isPlain c = true := by
  simp only [isControl, Bool.or_eq_false_iff, decide_eq_false_iff_not, beq_eq_false_iff_ne] at visible
  simp [isPlain, visible.2, Nat.not_lt.mp visible.1]

theorem escape?_eq_none {block : Bool} {c : Char} (kept : escape? block c = none) :
    c ≠ '\\' ∧ c ≠ '\r' ∧ (c = '\n' ∧ block = true ∨ isPlain c = true) := by
  refine ⟨?_, ?_, ?_⟩
  · rintro rfl
    cases kept
  · rintro rfl
    cases kept
  · by_cases broken : c = '\n'
    · subst broken
      cases block with
      | true => exact Or.inl ⟨rfl, rfl⟩
      | false => cases kept
    · by_cases blank : c = '\t'
      · subst blank
        cases kept
      · refine Or.inr (isPlain_of_not_control ?_)
        cases control : isControl c with
        | false => rfl
        | true =>
          simp only [escape?, broken, blank, control, if_false, if_true] at kept
          repeat' split at kept
          all_goals cases kept

section Line

variable {rest cs behind : List Char} (later : readLine .plain rest = some (cs, behind))
include later

theorem readLine_letter {letter held : Char} (known : letter? letter = some held) :
    readLine .plain ('\\' :: letter :: rest) = some (held :: cs, behind) := by
  obtain ⟨noByte, noShort, noLong, -⟩ := letter?_ordinary known
  simp [readLine, LineState.step, noByte, noShort, noLong, known, later]

theorem readLine_digits {c : Char} (small : c.toNat < 65536) :
    readLine .plain ('\\' :: 'u' :: fourDigits c.toNat ++ rest) = some (c :: cs, behind) := by
  simp [readLine, LineState.step, fourDigits, hexValue?_mod, fourDigits_value small,
    Text.scalar?_toNat, later]

theorem readLine_plain {c : Char} (plain : isPlain c = true) (noEscape : c ≠ '\\')
    (open_ : c ≠ '"') : readLine .plain (c :: rest) = some (c :: cs, behind) := by
  simp [readLine, LineState.step, plain, noEscape, open_, later]

end Line

theorem readLine_escaped (cs rest : List Char) :
    readLine .plain (escaped false 0 0 cs ++ '"' :: rest) = some (cs, rest) := by
  induction cs with
  | nil => simp [escaped, readLine]
  | cons c cs ih =>
    by_cases quote : c = '"'
    · subst quote
      have known : letter? '"' = some '"' := rfl
      simpa [escaped] using readLine_letter ih known
    · cases needed : escape? false c with
      | some written =>
        rw [escaped, if_neg quote, needed, List.append_assoc]
        rcases escape?_eq_some needed with ⟨letter, known, rfl⟩ | ⟨small, rfl⟩
        · exact readLine_letter ih known
        · exact readLine_digits ih small
      | none =>
        obtain ⟨noEscape, -, broken | plain⟩ := escape?_eq_none needed
        · cases broken.2
        · rw [escaped, if_neg quote, needed]
          exact readLine_plain ih plain noEscape quote

theorem readLiteral_append {cs : List Char} (plain : ∀ c ∈ cs, isPlain c = true ∧ c ≠ '\'')
    (rest : List Char) : readLiteral (cs ++ '\'' :: rest) = some (cs, rest) := by
  induction cs with
  | nil => simp [readLiteral]
  | cons c cs ih =>
    have later := ih fun other member => plain other (List.mem_cons_of_mem c member)
    obtain ⟨visible, inside⟩ := plain c List.mem_cons_self
    simp [readLiteral, visible, inside, later]

section Block

variable {quote : Char} {rest cs behind : List Char} {quotes : Nat}

theorem readBlock_letter {letter held : Char} (known : letter? letter = some held)
    (few : quotes ≤ 2) (later : readBlock '"' (.plain 0) rest = some (cs, behind)) :
    readBlock '"' (.plain quotes) ('\\' :: letter :: rest) =
      some (List.replicate quotes '"' ++ held :: cs, behind) := by
  obtain ⟨noByte, noShort, noLong, noBreak, noReturn, noBlank, noTab⟩ := letter?_ordinary known
  have open_ : ¬ 3 ≤ quotes := by omega
  simp [readBlock, BlockState.step, BlockState.plainStep, open_, isSpace, noByte, noShort, noLong,
    noBreak, noReturn, noBlank, noTab, known, later]

theorem readBlock_digits {c : Char} (small : c.toNat < 65536) (few : quotes ≤ 2)
    (later : readBlock '"' (.plain 0) rest = some (cs, behind)) :
    readBlock '"' (.plain quotes) ('\\' :: 'u' :: fourDigits c.toNat ++ rest) =
      some (List.replicate quotes '"' ++ c :: cs, behind) := by
  have open_ : ¬ 3 ≤ quotes := by omega
  simp [readBlock, BlockState.step, BlockState.plainStep, open_, fourDigits, hexValue?_mod,
    fourDigits_value small, Text.scalar?_toNat, later]

theorem readBlock_plain {c : Char} (plain : c = '\n' ∨ isPlain c = true) (other : c ≠ quote)
    (noEscape : ¬ (c = '\\' ∧ quote = '"')) (noReturn : c ≠ '\r') (few : quotes ≤ 2)
    (later : readBlock quote (.plain 0) rest = some (cs, behind)) :
    readBlock quote (.plain quotes) (c :: rest) =
      some (List.replicate quotes quote ++ c :: cs, behind) := by
  have open_ : ¬ 3 ≤ quotes := by omega
  simp [readBlock, BlockState.step, BlockState.plainStep, open_, other, noEscape, noReturn, plain,
    later]

theorem readBlock_quote (few : quotes < 4) :
    readBlock quote (.plain quotes) (quote :: rest) = readBlock quote (.plain (quotes + 1)) rest := by
  have open_ : quotes ≠ 4 := by omega
  cases next : readBlock quote (.plain (quotes + 1)) rest <;>
    simp [readBlock, BlockState.step, BlockState.plainStep, open_, next]

-- Quotes at the end of the text and the closing ones make one row, whose last three close.
theorem readBlock_close (few : quotes ≤ 2) (ends : ∀ tail, rest ≠ quote :: tail) :
    readBlock quote (.plain quotes) (quote :: quote :: quote :: rest) =
      some (List.replicate quotes quote, rest) := by
  have ended : ∀ extra, extra ≤ 1 → readBlock quote (.plain (extra + 3)) rest =
      some (List.replicate extra quote, rest) := by
    intro extra few
    cases rest with
    | nil => simp [readBlock]
    | cons c tail =>
      have other : c ≠ quote := fun same => ends tail (same ▸ rfl)
      simp [readBlock, BlockState.step, BlockState.plainStep, other]
  rw [readBlock_quote (by omega)]
  rcases Nat.lt_or_ge quotes 2 with less | full
  · rw [readBlock_quote (by omega), readBlock_quote (by omega)]
    exact ended quotes (by omega)
  · obtain rfl : quotes = 2 := by omega
    simp [readBlock, BlockState.step, BlockState.plainStep]

/-- A block is read to its end with the quotes before it, which the printer has counted too. -/
theorem readBlock_escaped (cs : List Char) (few : quotes ≤ 2) (ends : ∀ tail, rest ≠ '"' :: tail) :
    readBlock '"' (.plain quotes) (escaped true 2 quotes cs ++ '"' :: '"' :: '"' :: rest) =
      some (List.replicate quotes '"' ++ cs, rest) := by
  induction cs generalizing quotes with
  | nil => simpa [escaped] using readBlock_close few ends
  | cons c cs ih =>
    have later := @ih 0 (Nat.zero_le 2)
    by_cases quote : c = '"'
    · subst quote
      by_cases spare : quotes < 2
      · rw [escaped, if_pos rfl, if_pos spare, List.cons_append, readBlock_quote (by omega),
          ih spare]
        simp [List.replicate_succ']
      · rw [escaped, if_pos rfl, if_neg spare]
        have known : letter? '"' = some '"' := rfl
        exact readBlock_letter known few later
    · cases needed : escape? true c with
      | some written =>
        rw [escaped, if_neg quote, needed, List.append_assoc]
        rcases escape?_eq_some needed with ⟨letter, known, rfl⟩ | ⟨small, rfl⟩
        · exact readBlock_letter known few later
        · exact readBlock_digits small few later
      | none =>
        obtain ⟨noEscape, noReturn, plain⟩ := escape?_eq_none needed
        rw [escaped, if_neg quote, needed]
        exact readBlock_plain (plain.imp_left And.left) quote (fun escape => noEscape escape.1)
          noReturn few later

theorem le_longestRow (wanted : Char) (current longest : Nat) (cs : List Char) :
    current ≤ longestRow wanted current longest cs ∧ longest ≤ longestRow wanted current longest cs := by
  induction cs generalizing current longest with
  | nil => exact ⟨Nat.le_max_left _ _, Nat.le_max_right _ _⟩
  | cons c cs ih =>
    unfold longestRow
    split
    · exact ⟨Nat.le_of_succ_le (ih (current + 1) longest).1, (ih (current + 1) longest).2⟩
    · exact ⟨Nat.le_trans (Nat.le_max_left _ _) (ih 0 (max current longest)).2,
        Nat.le_trans (Nat.le_max_right _ _) (ih 0 (max current longest)).2⟩

-- The longest row bounds the quotes in a row at every point of the text.
theorem readBlock_literal {cs : List Char} {longest : Nat}
    (rows : longestRow '\'' quotes longest cs ≤ 2)
    (plain : ∀ c ∈ cs, c ≠ '\r' ∧ (c = '\n' ∨ isPlain c = true))
    (ends : ∀ tail, rest ≠ '\'' :: tail) :
    readBlock '\'' (.plain quotes) (cs ++ '\'' :: '\'' :: '\'' :: rest) =
      some (List.replicate quotes '\'' ++ cs, rest) := by
  induction cs generalizing quotes longest with
  | nil =>
    have few : quotes ≤ 2 := Nat.le_trans (Nat.le_max_left _ _) rows
    simpa using readBlock_close few ends
  | cons c cs ih =>
    have few : quotes ≤ 2 := Nat.le_trans (le_longestRow _ _ _ _).1 rows
    have visible := plain c List.mem_cons_self
    have later := fun other member => plain other (List.mem_cons_of_mem c member)
    unfold longestRow at rows
    by_cases quote : c = '\''
    · subst quote
      rw [if_pos rfl] at rows
      rw [List.cons_append, readBlock_quote (by omega), ih rows later]
      simp [List.replicate_succ']
    · rw [if_neg quote] at rows
      have noEscape : ¬ (c = '\\' ∧ '\'' = '"') := by simp
      exact readBlock_plain visible.2 quote noEscape visible.1 few (ih rows later)

end Block

-- Only the line break that the printer puts before a text with several lines is dropped.
theorem dropLineBreak_blockStart {cs body : List Char} (noReturn : body.head? ≠ some '\r')
    (oneLine : body.head? = some '\n' → '\n' ∈ cs) : dropLineBreak (blockStart cs ++ body) = body := by
  unfold blockStart
  by_cases lines : '\n' ∈ cs
  · simp [lines, dropLineBreak]
  · have noBreak : body.head? ≠ some '\n' := fun starts => lines (oneLine starts)
    have unlined : cs.contains '\n' = false := by simpa using lines
    rw [unlined, if_neg Bool.false_ne_true, List.nil_append]
    unfold dropLineBreak
    split
    · exact absurd rfl noBreak
    · exact absurd rfl noReturn
    · rfl

theorem head?_escaped (cs rest : List Char) :
    (escaped true 2 0 cs ++ '"' :: rest).head? ≠ some '\r' ∧
      ((escaped true 2 0 cs ++ '"' :: rest).head? = some '\n' → '\n' ∈ cs) := by
  cases cs with
  | nil => simp [escaped]
  | cons c cs =>
    by_cases quote : c = '"'
    · simp [escaped, quote]
    · cases needed : escape? true c with
      | some written =>
        rcases escape?_eq_some needed with ⟨letter, -, rfl⟩ | ⟨-, rfl⟩ <;>
          simp [escaped, quote, needed]
      | none =>
        have noReturn := (escape?_eq_none needed).2.1
        simp only [escaped, quote, needed, if_false, List.cons_append, List.head?_cons,
          Option.some.injEq, ne_eq]
        exact ⟨noReturn, fun broken => broken ▸ List.mem_cons_self⟩

/-- The texts that can be written in a way. Escapes write all texts. -/
def TextStyle.Admits (style : TextStyle) (cs : List Char) : Prop :=
  match style with
  | .line | .block => True
  | .literalLine => ∀ c ∈ cs, isPlain c = true ∧ c ≠ '\''
  | .literalBlock => longestRow '\'' 0 0 cs ≤ 2 ∧
      ∀ c ∈ cs, c ≠ '\r' ∧ (c = '\n' ∨ isPlain c = true)

theorem textStyle_admits (cs : List Char) : (textStyle cs).Admits cs := by
  have visible : (cs.any fun c => isControl c && c ≠ '\t' && c ≠ '\n') = false →
      ∀ c ∈ cs, c ≠ '\r' ∧ (c = '\n' ∨ isPlain c = true) := by
    intro unbroken c inside
    have calm := List.any_eq_false.mp unbroken c inside
    refine ⟨?_, ?_⟩
    · rintro rfl
      exact calm rfl
    · by_cases broken : c = '\n'
      · exact Or.inl broken
      · by_cases blank : c = '\t'
        · exact Or.inr (by rw [blank]; rfl)
        · refine Or.inr (isPlain_of_not_control ?_)
          simpa [broken, blank] using calm
  have absent : ∀ {c}, cs.contains c = false → c ∉ cs := by
    intro c outside
    simpa using outside
  unfold textStyle
  simp only
  split
  · trivial
  split
  · next literal =>
    simp only [Bool.and_eq_true, Bool.not_eq_true'] at literal
    intro c inside
    refine ⟨((visible literal.1.1 c inside).2).resolve_left ?_, ?_⟩
    · rintro rfl
      exact absent literal.2 inside
    · rintro rfl
      exact absent literal.1.2 inside
  split
  · trivial
  split
  · next literal =>
    simp only [Bool.and_eq_true, Bool.not_eq_true', decide_eq_true_eq] at literal
    exact ⟨literal.2, visible literal.1⟩
  split <;> trivial

end LaunchConfig.Toml
