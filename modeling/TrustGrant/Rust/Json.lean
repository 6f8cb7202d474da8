import TrustGrant.Rust.DateTime

/-!
# JSON text as serde_json writes it

Strings are quoted, with the two-character escapes serde_json uses and a hexadecimal
escape for the other control characters. Time stamps are quoted and need no escapes. The
delimiters are named here.
-/

namespace Rust.Json

open Library.PrefixCode Library.Decimal

/-- The quotation mark. -/
def quote : Char := Char.ofNat 0x22

/-- The backslash. -/
def backslash : Char := Char.ofNat 0x5C

/-- The opening brace. -/
def openBrace : Char := Char.ofNat 0x7B

/-- The closing brace. -/
def closeBrace : Char := Char.ofNat 0x7D

/-- `ESCAPE`: the letter of a two-character escape. -/
def escapeLetter (c : Char) : Option Char :=
  if c = quote then some quote
  else if c = backslash then some backslash
  else if c.toNat = 0x08 then some 'b'
  else if c.toNat = 0x09 then some 't'
  else if c.toNat = 0x0A then some 'n'
  else if c.toNat = 0x0C then some 'f'
  else if c.toNat = 0x0D then some 'r'
  else none

/-- One scalar value inside a string. -/
def escapeChar (c : Char) : List Char :=
  match escapeLetter c with
  | some letter => [backslash, letter]
  | none =>
    if c.toNat < 0x20 then
      [backslash, 'u', '0', '0', Nat.digitChar (c.toNat / 16), Nat.digitChar (c.toNat % 16)]
    else [c]

/-- `serde_json::to_writer` on a string. -/
def writeJsonString (text : String) : List Char :=
  quote :: (text.toList.flatMap escapeChar ++ [quote])

/-- The scalar value a letter of a two-character escape stands for. -/
def unescapeLetter (letter : Char) : Char :=
  if letter = 'b' then Char.ofNat 0x08
  else if letter = 't' then Char.ofNat 0x09
  else if letter = 'n' then Char.ofNat 0x0A
  else if letter = 'f' then Char.ofNat 0x0C
  else if letter = 'r' then Char.ofNat 0x0D
  else letter

/-- The value of a lower-case hexadecimal digit. -/
def hexValue (digit : Char) : Nat :=
  if digit.isDigit then digit.toNat - 48 else digit.toNat - 87

/-- Read one scalar value back. -/
def unescape : List Char → Option (Char × List Char)
  | [] => none
  | first :: rest =>
    if first = backslash then
      match rest with
      | [] => none
      | letter :: rest =>
        if letter = 'u' then
          some (Char.ofNat ((rest.take 4).foldl (fun value digit => 16 * value + hexValue digit) 0),
            rest.drop 4)
        else some (unescapeLetter letter, rest)
    else some (first, rest)

/-- A two-character escape is never the hexadecimal one and reads back. The seven escapes are
gone through one by one. -/
theorem unescape_letter (c letter : Char) (escaped : escapeLetter c = some letter) :
    letter ≠ 'u' ∧ unescapeLetter letter = c := by
  have known : ∀ code, c.toNat = code → c = Char.ofNat code := by
    rintro code rfl
    exact (Char.ofNat_toNat c).symm
  unfold escapeLetter at escaped
  split_ifs at escaped with isQuote isBackslash isB isT isN isF isR
  · subst isQuote
    cases escaped
    decide
  · subst isBackslash
    cases escaped
    decide
  · rw [known _ isB]
    cases escaped
    decide
  · rw [known _ isT]
    cases escaped
    decide
  · rw [known _ isN]
    cases escaped
    decide
  · rw [known _ isF]
    cases escaped
    decide
  · rw [known _ isR]
    cases escaped
    decide

/-- The hexadecimal digits of a control character read back. -/
theorem hex_digits_read (code : Nat) (control : code < 0x20) :
    [Char.ofNat 0x30, '0', Nat.digitChar (code / 16), Nat.digitChar (code % 16)].foldl
      (fun value digit => 16 * value + hexValue digit) 0 = code := by
  have all : ∀ code : Fin 0x20,
      [Char.ofNat 0x30, '0', Nat.digitChar (code / 16), Nat.digitChar (code % 16)].foldl
        (fun value digit => 16 * value + hexValue digit) 0 = code := by decide
  exact all ⟨code, control⟩

/-- An escaped scalar value reads back. It has an escape of two characters, is a control
character with a hexadecimal escape, or stands for itself. -/
theorem unescape_escape (c : Char) (rest : List Char) :
    unescape (escapeChar c ++ rest) = some (c, rest) := by
  unfold escapeChar
  cases escaped : escapeLetter c with
  | some letter =>
    obtain ⟨notHex, back⟩ := unescape_letter c letter escaped
    simp [unescape, notHex, back]
  | none =>
    simp only
    split
    · rename_i control
      have digits := hex_digits_read c.toNat control
      simp only [unescape, List.cons_append, List.nil_append, if_true, List.take_succ_cons,
        List.take_zero, List.drop_succ_cons, List.drop_zero]
      rw [show Char.ofNat (List.foldl _ 0 _) = Char.ofNat c.toNat from congrArg Char.ofNat digits,
        Char.ofNat_toNat]
    · have plain : c ≠ backslash := by
        rintro rfl
        cases escaped
      simp [unescape, plain]

/-- An escape does not look like the closing quotation mark. A quotation mark inside a string
begins with a backslash. -/
theorem escape_never_quote : NeverBegins quote escapeChar := by
  intro c
  unfold escapeChar
  cases escaped : escapeLetter c with
  | some letter => exact ⟨backslash, [letter], rfl, by decide⟩
  | none =>
    simp only
    split
    · exact ⟨backslash, _, rfl, by decide⟩
    · refine ⟨c, [], rfl, ?_⟩
      rintro rfl
      cases escaped

/-- A quoted string ends where its quotation mark closes. -/
theorem write_json_string_code : SelfDelimiting writeJsonString := by
  intro left right leftRest rightRest same
  simp only [writeJsonString, List.cons_append, List.append_assoc, List.nil_append,
    List.cons.injEq, true_and] at same
  obtain ⟨sameChars, sameRest⟩ := sequence_closed
    (self_delimiting_of_reader unescape unescape_escape) quote escape_never_quote _ _ _ _ same
  exact ⟨String.toList_inj.mp sameChars, sameRest⟩

/-- A quoted time stamp. -/
def writeDateTime (time : DateTime) : List Char := quote :: (time.toRfc3339 ++ [quote])

/-- The characters of a time stamp. -/
def IsStampChar (c : Char) : Prop := c.isDigit = true ∨ c ∈ ['-', '+', 'T', ':', '.', 'Z']

/-- Digits may stand in a time stamp. -/
theorem padded_stamp (width n : Nat) : ∀ c ∈ padded width n, IsStampChar c :=
  fun c member => .inl (padded_are_digits width n c member)

/-- A time stamp is written with these characters: digits, and the separators of dates and
times. -/
theorem to_rfc3339_stamp (time : DateTime) : ∀ c ∈ time.toRfc3339, IsStampChar c := by
  have year : ∀ c ∈ DateTime.writeYear (Library.Gregorian.civilFromDays
      (time.timestamp / 86400)).year, IsStampChar c := by
    intro c member
    unfold DateTime.writeYear at member
    split_ifs at member
    · exact padded_stamp _ _ c member
    · rcases List.mem_cons.mp member with rfl | digit
      · exact .inr (by decide)
      · exact padded_stamp _ _ c digit
    · rcases List.mem_cons.mp member with rfl | digit
      · exact .inr (by decide)
      · exact padded_stamp _ _ c digit
  have fraction : ∀ nano, ∀ c ∈ DateTime.writeFraction nano, IsStampChar c := by
    intro nano c member
    unfold DateTime.writeFraction at member
    split_ifs at member
    · cases member
    all_goals
      rcases List.mem_cons.mp member with rfl | digit
      · exact .inr (by decide)
      · exact padded_stamp _ _ c digit
  have hundreds : ∀ n, ∀ c ∈ DateTime.writeHundreds n, IsStampChar c := padded_stamp 2
  have separators : ∀ c ∈ ['-', '+', 'T', ':', '.', 'Z'], IsStampChar c := fun c member =>
    .inr member
  simp only [List.forall_mem_cons] at separators
  obtain ⟨hyphen, -, letter, colon, -, zone, -⟩ := separators
  simp only [DateTime.toRfc3339, List.cons_append, List.append_assoc, List.forall_mem_append,
    List.forall_mem_cons]
  exact ⟨year, hyphen, hundreds _, hyphen, hundreds _, letter, hundreds _, colon, hundreds _,
    colon, hundreds _, fraction _, zone, List.forall_mem_nil _⟩

/-- A printable character without an escape of its own is written as it is. Quotation mark and
backslash are the only printable ones that have one. -/
theorem escape_char_plain (c : Char) (printable : 0x20 ≤ c.toNat) (notQuote : c ≠ quote)
    (notBackslash : c ≠ backslash) : escapeChar c = [c] := by
  have noLetter : escapeLetter c = none := by
    unfold escapeLetter
    rw [if_neg notQuote, if_neg notBackslash, if_neg (by omega), if_neg (by omega),
      if_neg (by omega), if_neg (by omega), if_neg (by omega)]
  simp only [escapeChar, noLetter]
  rw [if_neg (by omega)]

/-- The characters of a time stamp have no escapes. They are printable and neither quotation mark
nor backslash. -/
theorem escape_stamp (c : Char) (stamp : IsStampChar c) : escapeChar c = [c] := by
  rcases stamp with digit | separator
  · refine escape_char_plain c ?_ ?_ ?_
    · simp only [Char.isDigit, ge_iff_le, Bool.and_eq_true, decide_eq_true_eq] at digit
      have least : '0'.toNat ≤ c.toNat := digit.1
      exact le_trans (by decide) least
    · rintro rfl
      cases digit
    · rintro rfl
      cases digit
  · simp only [List.mem_cons, List.not_mem_nil, or_false] at separator
    rcases separator with rfl | rfl | rfl | rfl | rfl | rfl <;> decide

/-- As a JSON string a time stamp is only quoted. -/
theorem write_json_string_stamp (time : DateTime) :
    writeJsonString (String.ofList time.toRfc3339) = writeDateTime time := by
  have plain : time.toRfc3339.flatMap escapeChar = time.toRfc3339.flatMap fun c => [c] :=
    List.flatMap_congr fun c member => escape_stamp c (to_rfc3339_stamp time c member)
  rw [writeJsonString, String.toList_ofList, plain, List.flatMap_singleton', writeDateTime]

end Rust.Json
