import TemplateManual.Json.Token
import TemplateManual.Json.Writer
import TemplateManual.Proofs.Text

set_option autoImplicit false

namespace TemplateManual

namespace Numeral

theorem read_digits_shrinks (chars digits rest : List Char)
    (found : readDigits chars = some (digits, rest)) : rest.length < chars.length := by
  unfold readDigits at found
  split at found
  · cases found
  · rename_i some
    cases found
    have split := congrArg List.length (List.takeWhile_append_dropWhile (p := isDigit) (l := chars))
    have taken := List.length_pos_iff.mpr some
    rw [List.length_append] at split
    omega

theorem read_whole_shrinks (chars digits rest : List Char)
    (found : readWhole chars = some (digits, rest)) : rest.length < chars.length := by
  unfold readWhole at found
  split at found
  · cases found
  · exact read_digits_shrinks chars digits rest found

theorem read_decimals_shrinks (chars rest : List Char) (decimals : Option (List Char))
    (found : readDecimals chars = some (decimals, rest)) : rest.length ≤ chars.length := by
  unfold readDecimals at found
  split at found
  · obtain ⟨⟨digits, after⟩, read, same⟩ := Option.map_eq_some_iff.mp found
    cases same
    have shrinks := read_digits_shrinks _ digits _ read
    simp only [List.length_cons]
    omega
  · cases found
    exact Nat.le_refl _

theorem read_sign_shrinks (chars : List Char) : (readSign chars).2.length ≤ chars.length := by
  unfold readSign
  split <;> simp

theorem read_exponent_shrinks (chars rest : List Char) (exponent : Option (Bool × List Char))
    (found : readExponent chars = some (exponent, rest)) : rest.length ≤ chars.length := by
  cases chars with
  | nil =>
      cases found
      exact Nat.le_refl _
  | cons c more =>
      by_cases marked : (decide (c = 'e') || decide (c = 'E')) = true
      · simp only [readExponent, marked, if_true] at found
        obtain ⟨⟨digits, after⟩, read, same⟩ := Option.map_eq_some_iff.mp found
        cases same
        have shrinks := read_digits_shrinks _ digits _ read
        have sign := read_sign_shrinks more
        simp only [List.length_cons]
        omega
      · simp only [readExponent, if_neg marked] at found
        cases found
        exact Nat.le_refl _

theorem read_shrinks (chars rest : List Char) (numeral : Numeral)
    (found : read chars = some (numeral, rest)) : rest.length < chars.length := by
  simp only [read, Option.bind_eq_bind, Option.bind_eq_some_iff] at found
  obtain ⟨⟨digits, afterDigits⟩, whole, ⟨decimals, afterDecimals⟩, fraction,
    ⟨exponent, afterExponent⟩, scale, same⟩ := found
  cases same
  have wholeShrinks := read_whole_shrinks _ _ _ whole
  have fractionShrinks := read_decimals_shrinks _ _ _ fraction
  have scaleShrinks := read_exponent_shrinks _ _ _ scale
  split at wholeShrinks <;> simp_all <;> omega

theorem digits_are_digits (value : Nat) : ∀ c ∈ Nat.toDigits 10 value, isDigit c = true :=
  fun _ member => Nat.isDigit_of_mem_toDigits (by decide) (by decide) member

theorem head_digit_of_positive (value : Nat) (positive : 0 < value) :
    (Nat.toDigits 10 value).head? ≠ some '0' := by
  induction value using Nat.strongRecOn with
  | ind value ih =>
      by_cases small : value < 10
      · have nonzero : ∀ digit < 10, 0 < digit → digit.digitChar ≠ '0' := by decide
        rw [Nat.toDigits_of_lt_base small]
        simpa using nonzero value small positive
      · have shorter := ih (value / 10) (by omega) (by omega)
        rw [Nat.toDigits_of_base_le (by decide) (by omega), List.head?_append]
        cases first : (Nat.toDigits 10 (value / 10)).head? with
        | none => exact absurd (List.head?_eq_none_iff.mp first) Nat.toDigits_ne_nil
        | some digit => simpa [first] using shorter

-- Nothing that could still belong to a number before it.
def Ended (rest : List Char) : Prop :=
  ∀ c ∈ rest.head?, isDigit c = false ∧ c ≠ '.' ∧ c ≠ 'e' ∧ c ≠ 'E'

theorem read_digits_written (value : Nat) (rest : List Char) (ended : Ended rest) :
    readDigits (Nat.toDigits 10 value ++ rest) = some (Nat.toDigits 10 value, rest) := by
  have stops : rest.takeWhile isDigit = [] ∧ rest.dropWhile isDigit = rest := by
    cases rest with
    | nil => exact ⟨rfl, rfl⟩
    | cons c more => simp [(ended c rfl).1]
  unfold readDigits
  rw [List.takeWhile_append_of_pos (digits_are_digits value),
    List.dropWhile_append_of_pos (digits_are_digits value), stops.1, stops.2, List.append_nil]
  split
  · rename_i empty
    exact absurd empty Nat.toDigits_ne_nil
  · rfl

theorem read_whole_written (value : Nat) (rest : List Char) (ended : Ended rest) :
    readWhole (Nat.toDigits 10 value ++ rest) = some (Nat.toDigits 10 value, rest) := by
  unfold readWhole
  rw [read_digits_written value rest ended]
  split
  · rename_i padded
    have digits := congrArg Prod.fst (Option.some.inj padded)
    rcases Nat.eq_zero_or_pos value with rfl | positive
    · simp at digits
    · exact absurd (congrArg List.head? digits) (head_digit_of_positive value positive)
  · rfl

theorem read_decimals_ended (rest : List Char) (ended : Ended rest) :
    readDecimals rest = some (none, rest) := by
  unfold readDecimals
  split
  · exact absurd rfl (ended '.' rfl).2.1
  · rfl

theorem read_exponent_ended (rest : List Char) (ended : Ended rest) :
    readExponent rest = some (none, rest) := by
  cases rest with
  | nil => rfl
  | cons c more =>
      obtain ⟨_, _, lower, upper⟩ := ended c rfl
      simp [readExponent, lower, upper]

theorem no_sign_written (value : Nat) (rest after : List Char) :
    Nat.toDigits 10 value ++ rest ≠ '-' :: after := by
  intro signed
  cases digits : Nat.toDigits 10 value with
  | nil => exact Nat.toDigits_ne_nil digits
  | cons first more =>
      have digit := digits_are_digits value first (by simp [digits])
      rw [digits, List.cons_append] at signed
      rw [(List.cons.inj signed).1] at digit
      exact absurd digit (by decide)

theorem read_written (negative : Bool) (value : Nat) (rest : List Char) (ended : Ended rest) :
    read ((if negative then ['-'] else []) ++ Nat.toDigits 10 value ++ rest) =
      some (⟨negative, Nat.toDigits 10 value, none, none⟩, rest) := by
  have whole := read_whole_written value rest ended
  cases negative with
  | true =>
      simp [read, whole, read_decimals_ended rest ended, read_exponent_ended rest ended]
  | false =>
      simp only [Bool.false_eq_true, if_false, List.nil_append, read]
      split
      · rename_i signed
        exact absurd signed (no_sign_written value rest _)
      · simp [whole, read_decimals_ended rest ended, read_exponent_ended rest ended]

theorem value_written (value : Int) (low : -9223372036854775808 ≤ value)
    (high : value ≤ 18446744073709551615) :
    (Numeral.value ⟨decide (value < 0), Nat.toDigits 10 value.natAbs, none, none⟩) =
      some (.whole value) := by
  simp only [Numeral.value, Nat.ofDigitChars_ten_toDigits]
  by_cases negative : value < 0
  · have fits : (decide (0 < value.natAbs) && decide (value.natAbs ≤ 9223372036854775808)) = true := by
      simp only [Bool.and_eq_true, decide_eq_true_eq]
      omega
    have same : -(value.natAbs : Int) = value := by omega
    simp only [negative, decide_true, if_true, fits, same]
  · have fits : value.natAbs ≤ maxSignificand := by
      unfold maxSignificand
      omega
    have same : (value.natAbs : Int) = value := by omega
    simp only [negative, decide_false, Bool.false_eq_true, if_false, fits, if_true, same]

end Numeral

namespace Json.Token

theorem read_text_shrinks (done : Option (List Char)) (high : Option Nat) (chars rest : List Char)
    (value : Option String) (found : readText done high chars = some (value, rest)) :
    rest.length < chars.length := by
  fun_induction readText done high chars <;> simp_all <;> omega

theorem read_letters_shrinks (letters chars rest : List Char)
    (found : readLetters letters chars = some rest) : rest.length ≤ chars.length := by
  fun_induction readLetters letters chars with
  | case1 chars =>
      cases found
      exact Nat.le_refl _
  | case2 letter letters => cases found
  | case3 letter letters chars ih => exact Nat.le_succ_of_le (ih found)
  | case4 letter letters c chars other => cases found

theorem read_next_shrinks (c : Char) (rest after : List Char) (token : Token)
    (found : readNext c rest = some (token, after)) : after.length ≤ rest.length := by
  unfold readNext at found
  split at found
  case h_7 =>
    obtain ⟨⟨value, left⟩, read, same⟩ := Option.map_eq_some_iff.mp found
    cases same
    exact Nat.le_of_lt (read_text_shrinks _ _ _ _ _ read)
  case h_8 | h_9 | h_10 =>
    obtain ⟨left, read, same⟩ := Option.map_eq_some_iff.mp found
    cases same
    exact read_letters_shrinks _ _ _ read
  case h_11 =>
    obtain ⟨⟨numeral, left⟩, read, same⟩ := Option.map_eq_some_iff.mp found
    cases same
    have shrinks := Numeral.read_shrinks _ _ _ read
    simp only [List.length_cons] at shrinks
    omega
  all_goals
    cases found
    exact Nat.le_refl _

-- Every token takes a character, so counts that are not below the number of characters all read the
-- same tokens.
theorem read_up_to_enough (count other : Nat) (chars : List Char) (enough : chars.length ≤ count)
    (otherEnough : chars.length ≤ other) : readUpTo count chars = readUpTo other chars := by
  induction count generalizing other chars with
  | zero =>
      obtain rfl := List.eq_nil_of_length_eq_zero (Nat.le_zero.mp enough)
      cases other <;> rfl
  | succ count ih =>
      cases chars with
      | nil => cases other <;> rfl
      | cons c rest =>
          rw [List.length_cons] at enough otherEnough
          obtain ⟨more, rfl⟩ : ∃ more, other = more + 1 := ⟨other - 1, by omega⟩
          by_cases blank : isBlank c = true
          · simp only [readUpTo, blank, if_true]
            exact ih more rest (by omega) (by omega)
          · simp only [readUpTo, if_neg blank]
            cases next : readNext c rest with
            | none => rfl
            | some found =>
                have shrinks := read_next_shrinks c rest found.2 found.1 next
                simp only [ih more found.2 (by omega) (by omega)]

theorem of_chars_blank (c : Char) (rest : List Char) (blank : isBlank c = true) :
    ofChars (c :: rest) = ofChars rest := by
  simp [ofChars, readUpTo, blank]

theorem of_chars_token (c : Char) (rest after : List Char) (token : Token)
    (solid : isBlank c = false) (next : readNext c rest = some (token, after)) :
    ofChars (c :: rest) = token :: ofChars after := by
  have shrinks := read_next_shrinks c rest after token next
  simp only [ofChars, List.length_cons, readUpTo, solid, Bool.false_eq_true, if_false, next]
  rw [read_up_to_enough rest.length after.length after shrinks (Nat.le_refl _)]

theorem of_chars_blanks (blanks rest : List Char) (blank : ∀ c ∈ blanks, isBlank c = true) :
    ofChars (blanks ++ rest) = ofChars rest := by
  induction blanks with
  | nil => rfl
  | cons c more ih =>
      rw [List.cons_append, of_chars_blank c _ (blank c List.mem_cons_self)]
      exact ih fun other member => blank other (List.mem_cons_of_mem c member)

@[simp] theorem of_chars_open_array (rest : List Char) :
    ofChars ('[' :: rest) = .openArray :: ofChars rest :=
  of_chars_token _ _ _ _ (by decide) rfl

@[simp] theorem of_chars_close_array (rest : List Char) :
    ofChars (']' :: rest) = .closeArray :: ofChars rest :=
  of_chars_token _ _ _ _ (by decide) rfl

@[simp] theorem of_chars_open_object (rest : List Char) :
    ofChars ('\x7b' :: rest) = .openObject :: ofChars rest :=
  of_chars_token _ _ _ _ (by decide) rfl

@[simp] theorem of_chars_close_object (rest : List Char) :
    ofChars ('\x7d' :: rest) = .closeObject :: ofChars rest :=
  of_chars_token _ _ _ _ (by decide) rfl

@[simp] theorem of_chars_comma (rest : List Char) : ofChars (',' :: rest) = .comma :: ofChars rest :=
  of_chars_token _ _ _ _ (by decide) rfl

@[simp] theorem of_chars_colon (rest : List Char) : ofChars (':' :: rest) = .colon :: ofChars rest :=
  of_chars_token _ _ _ _ (by decide) rfl

-- Control characters have codes of two hexadecimal digits, far from the surrogates.
theorem code_unit_of_control : ∀ code < 32,
    codeUnit '0' '0' (hexDigit (code / 16)) (hexDigit code) = some code := by
  decide

theorem read_text_control (done : List Char) (c : Char) (rest : List Char) (control : c < ' ') :
    readText (some done) none
        ('\\' :: 'u' :: '0' :: '0' :: hexDigit (c.toNat / 16) :: hexDigit c.toNat :: rest) =
      readText (some (c :: done)) none rest := by
  have small : c.toNat < 32 := control
  have noHigh : isHighSurrogate c.toNat = false := by
    simp only [isHighSurrogate, Bool.and_eq_false_iff, decide_eq_false_iff_not]
    omega
  have noLow : isLowSurrogate c.toNat = false := by
    simp only [isLowSurrogate, Bool.and_eq_false_iff, decide_eq_false_iff_not]
    omega
  rw [readText, code_unit_of_control c.toNat small]
  simp [noHigh, noLow]

theorem read_text_plain (done : List Char) (c : Char) (rest : List Char) (noQuote : c ≠ '"')
    (noBackslash : c ≠ '\\') (noControl : ¬ c < ' ') :
    readText (some done) none (c :: rest) = readText (some (c :: done)) none rest := by
  rw [readText, if_neg noControl]
  · rfl
  · exact noQuote
  · intro a b c d after backslash
    exact absurd backslash noBackslash
  · intro letter after backslash
    exact absurd backslash noBackslash

theorem read_text_escape (done : List Char) (c : Char) (rest : List Char) :
    readText (some done) none (escapeChar c ++ rest) = readText (some (c :: done)) none rest := by
  by_cases control : c < ' '
  · by_cases short : c ∈ ['\x08', '\x0c', '\n', '\r', '\t']
    · simp only [List.mem_cons, List.not_mem_nil, or_false] at short
      rcases short with rfl | rfl | rfl | rfl | rfl <;> simp [escapeChar, readText, shortEscape]
    · have noQuote : c ≠ '"' := by rintro rfl; exact absurd control (by decide)
      have noBackslash : c ≠ '\\' := by rintro rfl; exact absurd control (by decide)
      have long : escapeChar c =
          ['\\', 'u', '0', '0', hexDigit (c.toNat / 16), hexDigit c.toNat] := by
        simp_all [escapeChar]
      rw [long]
      exact read_text_control done c rest control
  · by_cases quote : c = '"'
    · subst quote
      simp [escapeChar, readText, shortEscape]
    · by_cases backslash : c = '\\'
      · subst backslash
        simp [escapeChar, readText, shortEscape]
      · have plain : escapeChar c = [c] := by
          unfold escapeChar
          rw [if_neg quote, if_neg backslash]
          repeat rw [if_neg (by rintro rfl; exact control (by decide))]
          rw [if_neg control]
        rw [plain]
        exact read_text_plain done c rest quote backslash control

theorem read_text_written (done chars rest : List Char) :
    readText (some done) none (chars.flatMap escapeChar ++ '"' :: rest) =
      some (some (String.ofList (done.reverse ++ chars)), rest) := by
  induction chars generalizing done with
  | nil => simp [readText]
  | cons c more ih =>
      rw [List.flatMap_cons, List.append_assoc, read_text_escape, ih]
      simp

theorem of_chars_string (text : String) (rest : List Char) :
    ofChars ((writeString text).toList ++ rest) = .text (some text) :: ofChars rest := by
  have chars : (writeString text).toList ++ rest =
      '"' :: (text.toList.flatMap escapeChar ++ '"' :: rest) := by
    simp [writeString]
  have read := read_text_written [] text.toList rest
  rw [chars]
  refine of_chars_token _ _ _ _ (by decide) ?_
  simp only [readNext, read, Option.map_some, List.reverse_nil, List.nil_append, String.ofList_toList]

theorem read_next_numeral (c : Char) (rest : List Char) (starts : Numeral.isDigit c = true ∨ c = '-') :
    readNext c rest =
      (Numeral.read (c :: rest)).map fun (numeral, rest) => (.number numeral.value, rest) := by
  unfold readNext
  split
  case h_11 => rfl
  all_goals exact absurd starts (by decide)

theorem solid_of_numeral (c : Char) (starts : Numeral.isDigit c = true ∨ c = '-') :
    isBlank c = false := by
  cases blank : isBlank c with
  | false => rfl
  | true =>
      simp only [isBlank, Bool.or_eq_true, decide_eq_true_eq, or_assoc] at blank
      rcases blank with rfl | rfl | rfl | rfl <;> exact absurd starts (by decide)

theorem of_chars_int (value : Int) (rest : List Char) (low : -9223372036854775808 ≤ value)
    (high : value ≤ 18446744073709551615) (ended : Numeral.Ended rest) :
    ofChars ((toString value).toList ++ rest) = .number (some (.whole value)) :: ofChars rest := by
  have read := Numeral.read_written (decide (value < 0)) value.natAbs rest ended
  simp only [decide_eq_true_eq] at read
  rw [← Text.int_chars] at read
  obtain ⟨c, more, chars, starts⟩ := Text.int_starts value
  rw [chars, List.cons_append] at read ⊢
  refine of_chars_token c (more ++ rest) rest _ (solid_of_numeral c starts.symm) ?_
  rw [read_next_numeral c (more ++ rest) starts.symm, read]
  exact congrArg (fun number => some (Token.number number, rest))
    (Numeral.value_written value low high)

end Json.Token

end TemplateManual
