import LaunchConfig.Proofs.KeyMap
import LaunchConfig.Proofs.TomlValue

/-!
Reading back a whole document. A flat table is written as one line for each key, ascending, so its
text has one statement for each line, and the statements describe the table that was written. A
line break more or less at the end changes nothing.
-/
namespace LaunchConfig.Toml

section Keys

/-- The characters that a written key starts with. -/
def opensKey (c : Char) : Bool :=
  isBareChar c || c = '"' || c = '\''

theorem writeKey_cons (key : String) : ∃ c tail, writeKey key = c :: tail ∧ opensKey c = true := by
  unfold writeKey
  simp only
  split
  · next bare =>
    simp only [Bool.and_eq_true, Bool.not_eq_true', List.isEmpty_eq_false_iff, List.all_eq_true] at bare
    cases chars : key.toList with
    | nil => exact absurd chars bare.1
    | cons c tail =>
      have first : isBareChar c = true := bare.2 c (chars ▸ List.mem_cons_self)
      exact ⟨c, tail, rfl, by simp [opensKey, first]⟩
  split
  · exact ⟨_, _, rfl, rfl⟩
  split
  · exact ⟨_, _, rfl, rfl⟩
  · exact ⟨_, _, rfl, rfl⟩

theorem readKey_line (cs rest : List Char) :
    readKey (writeStyled .line cs ++ rest) = some (String.ofList cs, rest) := by
  simp only [writeStyled, List.cons_append, List.append_assoc, List.nil_append, readKey,
    readLine_escaped, Option.map_some]

-- The blank behind a bare key ends it.
theorem readKey_bare {cs : List Char} (some_ : cs ≠ []) (bare : ∀ c ∈ cs, isBareChar c = true)
    (rest : List Char) : readKey (cs ++ ' ' :: rest) = some (String.ofList cs, ' ' :: rest) := by
  have taken : (cs ++ ' ' :: rest).takeWhile (fun c => c.isAlphanum || c = '_' || c = '-') = cs := by
    have kept : (cs ++ ' ' :: rest).takeWhile isBareChar = cs := by
      rw [List.takeWhile_append_of_pos bare, List.takeWhile_cons_of_neg (by decide),
        List.append_nil]
    exact kept
  have noQuote : ∀ c tail, isBareChar c = false → cs ++ ' ' :: rest ≠ c :: tail := by
    intro c tail quote same
    cases cs with
    | nil => exact some_ rfl
    | cons first cs =>
      obtain ⟨rfl, -⟩ := List.cons.inj same
      cases quote.symm.trans (bare first List.mem_cons_self)
  unfold readKey
  split
  · next same => exact absurd same (noQuote '"' _ rfl)
  · next same => exact absurd same (noQuote '\'' _ rfl)
  · simp [taken, some_]

theorem readKey_write (key : String) (rest : List Char) :
    readKey (writeKey key ++ ' ' :: rest) = some (key, ' ' :: rest) := by
  unfold writeKey
  simp only
  split
  · next bare =>
    simp only [Bool.and_eq_true, Bool.not_eq_true', List.isEmpty_eq_false_iff, List.all_eq_true] at bare
    rw [readKey_bare bare.1 bare.2, String.ofList_toList]
  split
  · rw [readKey_line, String.ofList_toList]
  split
  · next literal =>
    simp only [Bool.and_eq_true, Bool.not_eq_true', List.any_eq_false] at literal
    have plain : ∀ c ∈ key.toList, isPlain c = true ∧ c ≠ '\'' := by
      intro c inside
      refine ⟨?_, ?_⟩
      · by_cases blank : c = '\t'
        · rw [blank]
          rfl
        · exact isPlain_of_not_control (by simpa [blank] using literal.1 c inside)
      · rintro rfl
        exact absurd inside (by simpa using literal.2)
    simp only [writeStyled, List.cons_append, List.append_assoc, List.nil_append, readKey,
      readLiteral_append plain, Option.map_some, String.ofList_toList]
  · rw [readKey_line, String.ofList_toList]

end Keys

section Statements

/-- The statement that a line of a document makes. -/
def assigned (entry : String × Toml) : Statement :=
  .assign [entry.1] entry.2

/-- A line without its line break. -/
def lineBody (entry : String × Toml) : List Char :=
  writeKey entry.1 ++ [' ', '=', ' '] ++ entry.2.write

theorem writeLine_eq (entry : String × Toml) : writeLine entry = lineBody entry ++ ['\n'] := by
  simp [writeLine, lineBody]

theorem readKeys_write (parts : Nat) (key : String) (rest : List Char) :
    readKeys (parts + 1) (writeKey key ++ ' ' :: '=' :: rest) = some ([key], '=' :: rest) := by
  have gap : (' ' :: '=' :: rest).dropWhile isSpace = '=' :: rest := rfl
  rw [readKeys, readKey_write, Option.bind_some]
  simp only [gap]
  rfl

theorem write_cons {held : Toml} (flat : held.Flat) :
    ∃ c tail, held.write = c :: tail ∧ isSpace c = false := by
  cases held with
  | text held =>
    obtain ⟨c, tail, written, rfl | rfl⟩ := writeText_cons held
    · exact ⟨_, tail, by rw [write, written], rfl⟩
    · exact ⟨_, tail, by rw [write, written], rfl⟩
  | integer held =>
    obtain ⟨c, tail, written, -⟩ := Numeral.decimal_cons held.toInt
    have token := isTokenChar_decimal held.toInt c (written ▸ List.mem_cons_self)
    refine ⟨c, tail, by rw [write, written], ?_⟩
    cases blank : isSpace c with
    | false => rfl
    | true =>
      simp only [isSpace, Bool.or_eq_true, decide_eq_true_eq] at blank
      rcases blank with rfl | rfl <;> cases token
  | boolean held => cases held <;> exact ⟨_, _, by rw [write], rfl⟩
  | array items =>
    cases items with
    | nil => exact ⟨_, _, by rw [write], rfl⟩
    | cons item items => exact ⟨_, _, by rw [write, List.cons_append], rfl⟩
  | float held => exact flat.elim
  | moment held => exact flat.elim
  | table entries => exact flat.elim

theorem readStatement_body {entry : String × Toml} (flat : entry.2.Flat) {rest : List Char}
    (ends : Ends rest) : readStatement (lineBody entry ++ rest) = some (assigned entry, rest) := by
  have path := readKeys_write 79 entry.1 (' ' :: (entry.2.write ++ rest))
  have value := readValue_write flat ends
  have gap : (' ' :: (entry.2.write ++ rest)).dropWhile isSpace = entry.2.write ++ rest := by
    obtain ⟨c, tail, written, visible⟩ := write_cons flat
    rw [List.dropWhile_cons_of_pos rfl, written, List.cons_append,
      List.dropWhile_cons_of_neg (by simp [visible])]
  obtain ⟨c, tail, written, opening⟩ := writeKey_cons entry.1
  have noHeader : c ≠ '[' := by
    rintro rfl
    cases opening
  simp only [lineBody, List.append_assoc, List.cons_append, List.nil_append]
  rw [written, List.cons_append] at path ⊢
  unfold readStatement
  split
  · next header => exact absurd (List.cons.inj header).1 noHeader
  · next header => exact absurd (List.cons.inj header).1 noHeader
  · rw [readPath, maxParts, path]
    simp only [gap, value, Option.map_some, assigned]

theorem lineEnd?_of_ink {c : Char} {cs : List Char} (noComment : c ≠ '#') (noBreak : c ≠ '\n')
    (noReturn : c ≠ '\r') (visible : isSpace c = false) : lineEnd? (c :: cs) = none := by
  unfold lineEnd?
  rw [List.dropWhile_cons_of_neg (by simp [visible])]
  simp only
  split
  · next stops =>
    split at stops
    · next comment => exact absurd (List.cons.inj comment).1 noComment
    · cases stops
  · next stops =>
    split at stops
    · next comment => exact absurd (List.cons.inj comment).1 noComment
    · exact absurd (List.cons.inj stops).1 noBreak
  · next stops =>
    split at stops
    · next comment => exact absurd (List.cons.inj comment).1 noComment
    · exact absurd (List.cons.inj stops).1 noReturn
  · rfl

-- A key starts with a character that neither ends a line nor is blank.
theorem lineEnd?_body (entry : String × Toml) (rest : List Char) :
    lineEnd? (lineBody entry ++ rest) = none ∧
      (lineBody entry ++ rest).dropWhile isSpace = lineBody entry ++ rest := by
  obtain ⟨c, tail, written, opening⟩ := writeKey_cons entry.1
  have other : ∀ {mark}, opensKey mark = false → c ≠ mark := by
    rintro mark closed rfl
    cases closed.symm.trans opening
  have visible : isSpace c = false := by
    simp [isSpace, other (show opensKey ' ' = false from rfl),
      other (show opensKey '\t' = false from rfl)]
  simp only [lineBody, written, List.cons_append]
  exact ⟨lineEnd?_of_ink (other rfl) (other rfl) (other rfl) visible,
    List.dropWhile_cons_of_neg (by simp [visible])⟩

theorem readStatements_body {entry : String × Toml} (flat : entry.2.Flat) {rest behind : List Char}
    {steps : Nat} {statements : List Statement} (ends : Ends rest) (line : lineEnd? rest = some behind)
    (later : readStatements steps behind = some statements) :
    readStatements (steps + 1) (lineBody entry ++ rest) = some (assigned entry :: statements) := by
  obtain ⟨noEnd, noGap⟩ := lineEnd?_body entry rest
  rw [readStatements]
  · simp only [noEnd, noGap, readStatement_body flat ends, line, later, Option.bind_some,
      Option.map_some]
  · intro empty
    rw [empty] at noEnd
    cases noEnd

/-- The lines in front of a text add their statements to those of the text. -/
theorem readStatements_lines {entries : List (String × Toml)} (flat : ∀ entry ∈ entries, entry.2.Flat)
    {rest : List Char} {steps : Nat} {statements : List Statement}
    (later : readStatements steps rest = some statements) :
    readStatements (steps + entries.length) (entries.flatMap writeLine ++ rest) =
      some (entries.map assigned ++ statements) := by
  induction entries with
  | nil => exact later
  | cons entry entries ih =>
    have tail := ih fun other member => flat other (List.mem_cons_of_mem entry member)
    have broken : Ends ('\n' :: (entries.flatMap writeLine ++ rest)) := by
      rintro c ⟨⟩
      exact Or.inl rfl
    rw [List.flatMap_cons, writeLine_eq, List.append_assoc, List.append_assoc]
    exact readStatements_body (flat entry List.mem_cons_self) broken rfl tail

end Statements

section Assembly

theorem add_assigned {entries : Entries} {entry : String × Toml}
    (fresh : ∀ earlier ∈ entries, earlier.1 < entry.1) :
    Assembly.add ⟨[], entries⟩ (assigned entry) =
      some ⟨[], entries ++ [(entry.1, .value entry.2)]⟩ := by
  have absent : entries.lookup entry.1 = none := by
    rw [lookup_eq_none_iff_notMem]
    intro present
    obtain ⟨earlier, member, same⟩ := List.mem_map.mp present
    exact ne_of_lt (fresh earlier member) same
  simp [Assembly.add, assigned, assignBelow, assignPath, absent, insertPair_of_last fresh]

-- The keys ascend, so each new one goes to the end of the entries.
theorem foldlM_assigned {before : Entries} {pairs : List (String × Toml)} (sorted : Ascending pairs)
    (fresh : ∀ earlier ∈ before, ∀ pair ∈ pairs, earlier.1 < pair.1) :
    (pairs.map assigned).foldlM Assembly.add ⟨[], before⟩ =
      some ⟨[], before ++ pairs.map fun pair => (pair.1, .value pair.2)⟩ := by
  induction pairs generalizing before with
  | nil => simp
  | cons pair rest ih =>
    obtain ⟨first, sorted⟩ := List.pairwise_cons.mp sorted
    rw [List.map_cons, List.foldlM_cons,
      add_assigned fun earlier member => fresh earlier member pair List.mem_cons_self,
      Option.bind_eq_bind, Option.bind_some, ih sorted]
    · simp
    · intro earlier member later inside
      rcases List.mem_append.mp member with old | new
      · exact fresh earlier old later (List.mem_cons_of_mem pair inside)
      · rw [List.mem_singleton.mp new]
        exact first later inside

theorem closeEntries_values (pairs : List (String × Toml)) :
    closeEntries (pairs.map fun pair => (pair.1, .value pair.2)) = pairs := by
  induction pairs with
  | nil => simp [closeEntries]
  | cons pair rest ih => simp [closeEntries, Node.close, ih]

theorem assemble?_assigned (table : KeyMap Toml) :
    assemble? (table.pairs.map assigned) = some table := by
  rw [assemble?, Assembly.start, foldlM_assigned table.ascending (by simp), Option.map_some,
    List.nil_append, Assembly.finish, closeEntries_values, KeyMap.ofList_pairs]

end Assembly

section Document

theorem length_lines (entries : List (String × Toml)) :
    entries.length ≤ (entries.flatMap writeLine).length := by
  induction entries with
  | nil => exact Nat.le_refl 0
  | cons entry entries ih =>
    simp only [List.flatMap_cons, List.length_append, List.length_cons, writeLine_eq, List.length_nil]
    omega

theorem head?_body (entry : String × Toml) (rest : List Char) :
    (lineBody entry ++ rest).head? ≠ some '\ufeff' := by
  obtain ⟨c, tail, written, opening⟩ := writeKey_cons entry.1
  rw [lineBody, written]
  rintro ⟨⟩
  cases opening

theorem head?_lines {entries : List (String × Toml)} {rest : List Char}
    (noMark : rest.head? ≠ some '\ufeff') : (entries.flatMap writeLine ++ rest).head? ≠ some '\ufeff' := by
  cases entries with
  | nil => exact noMark
  | cons entry entries =>
    rw [List.flatMap_cons, writeLine_eq, List.append_assoc, List.append_assoc]
    exact head?_body entry _

/-- The three texts in which a document may be kept: as it was printed, with one more line break at
the end, and without the last one. -/
inductive Kept (entries : List (String × Toml)) : List Char → Prop
  | printed : Kept entries (entries.flatMap writeLine)
  | longer : Kept entries (entries.flatMap writeLine ++ ['\n'])
  | shorter {before : List (String × Toml)} {last : String × Toml}
      (split : entries = before ++ [last]) :
      Kept entries (before.flatMap writeLine ++ lineBody last)

-- There is at least one character for each line, so the steps of the reader suffice.
theorem Kept.readStatements {entries : List (String × Toml)} (flat : ∀ entry ∈ entries, entry.2.Flat)
    {cs : List Char} (kept : Kept entries cs) :
    Toml.readStatements (cs.length + 1) cs = some (entries.map assigned) := by
  cases kept with
  | printed =>
    obtain ⟨more, same⟩ := Nat.exists_eq_add_of_le (length_lines entries)
    have ended : Toml.readStatements (more + 1) [] = some [] := rfl
    have read := readStatements_lines flat ended
    rw [List.append_nil, List.append_nil] at read
    rw [← read, same]
    congr 1
    omega
  | longer =>
    obtain ⟨more, same⟩ := Nat.exists_eq_add_of_le (length_lines entries)
    have ended : Toml.readStatements (more + 1 + 1) ['\n'] = some [] := rfl
    have read := readStatements_lines flat ended
    rw [List.append_nil] at read
    rw [← read, List.length_append, List.length_singleton, same]
    congr 1
    omega
  | @shorter before last split =>
    obtain ⟨more, same⟩ := Nat.exists_eq_add_of_le (length_lines before)
    have ended : ∀ steps, Toml.readStatements (steps + 1) [] = some [] := fun _ => rfl
    have ends : Ends [] := by
      rintro c ⟨⟩
    have body := readStatements_body (flat last (by simp [split])) ends rfl
      (ended (more + (lineBody last).length - 1))
    have earlier : ∀ entry ∈ before, entry.2.Flat :=
      fun entry member => flat entry (by simp [split, member])
    have read := readStatements_lines earlier body
    have positive : 0 < (lineBody last).length := by
      simp only [lineBody, List.length_append, List.length_cons]
      omega
    rw [List.append_nil] at read
    rw [split, List.map_append, List.map_singleton, ← read, List.length_append, same]
    congr 1
    omega

theorem Kept.dropMark {entries : List (String × Toml)} {cs : List Char} (kept : Kept entries cs) :
    Toml.dropMark cs = cs := by
  have noMark : cs.head? ≠ some '\ufeff' := by
    cases kept with
    | printed =>
      have first := @head?_lines entries [] (by simp)
      rwa [List.append_nil] at first
    | longer => exact head?_lines (by simp)
    | @shorter before last split =>
      have first := head?_body last []
      rw [List.append_nil] at first
      exact head?_lines first
  unfold Toml.dropMark
  split
  · exact absurd rfl noMark
  · rfl

end Document

/-- A printed text as a file may hold it: with one line break more at its end, or one less. -/
def Holds (source text : String) : Prop :=
  source = text ∨ source = text ++ "\n" ∨ source ++ "\n" = text

theorem Holds.kept {source : String} {entries : List (String × Toml)}
    (holds : Holds source (document entries)) : Kept entries source.toList := by
  rcases holds with rfl | rfl | shorter
  · rw [document, String.toList_ofList]
    exact .printed
  · rw [String.toList_append, document, String.toList_ofList]
    exact .longer
  · have same := congrArg String.toList shorter
    rw [String.toList_append, document, String.toList_ofList] at same
    rcases List.eq_nil_or_concat entries with rfl | ⟨before, last, rfl⟩
    · simp at same
    · have body : source.toList = before.flatMap writeLine ++ lineBody last := by
        have ended : source.toList ++ ['\n'] = (before.flatMap writeLine ++ lineBody last) ++ ['\n'] := by
          simpa [writeLine_eq] using same
        exact List.append_cancel_right ended
      rw [body]
      exact .shorter (List.concat_eq_append ..)

/-- A flat table is read back from its text. -/
theorem parse?_document {table : KeyMap Toml} (flat : ∀ pair ∈ table.pairs, pair.2.Flat)
    {source : String} (holds : Holds source (document table.pairs)) :
    parse? source = some table := by
  rw [parse?, holds.kept.dropMark]
  simp only [holds.kept.readStatements flat, Option.bind_some, assemble?_assigned]

end LaunchConfig.Toml
