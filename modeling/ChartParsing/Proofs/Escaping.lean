import Mathlib.Data.List.Basic
import ChartParsing.EscapedText

/-!
# Escaped text between quotes

Whatever characters a text has, its escaped form has only printable ASCII characters, does not close
the quotes around it, and is read back as the text. `WrittenAs` lists the ways in which a character
is written; each fact about `escape` is proved for one character in each of them.

Main theorem: `quotes_escape`.
-/

set_option autoImplicit false

namespace ChartParsing

/-! ## Quoted text -/

/-- The number of characters in front of the closing quote, which is not behind a backslash. -/
def closingQuote? : List Char → Option Nat
  | [] => none
  | '"' :: _ => some 0
  | '\\' :: _ :: rest => (closingQuote? rest).map (· + 2)
  | _ :: rest => (closingQuote? rest).map (· + 1)

def Printable (c : Char) : Prop := 0x20 ≤ c.toNat ∧ c.toNat ≤ 0x7e

instance (c : Char) : Decidable (Printable c) := inferInstanceAs (Decidable (_ ∧ _))

/-- **What is written between quotes stands for a text.** -/
structure Quotes (written text : String) : Prop where
  printable : ∀ c ∈ written.toList, Printable c
  /-- The quote behind it is the closing one. -/
  closes : ∀ behind, closingQuote? (written.toList ++ '"' :: behind) = some written.toList.length
  reads : unescape? written = some text

/-- Characters that are neither quotes nor backslashes are passed over. -/
theorem closingQuote?_append {plain : List Char} (h : ∀ c ∈ plain, c ≠ '"' ∧ c ≠ '\\')
    (rest : List Char) :
    closingQuote? (plain ++ rest) = (closingQuote? rest).map (· + plain.length) := by
  induction plain with
  | nil => simp
  | cons c plain ih =>
      obtain ⟨⟨hquote, hbackslash⟩, hplain⟩ := List.forall_mem_cons.mp h
      have hnext : closingQuote? (c :: (plain ++ rest)) =
          (closingQuote? (plain ++ rest)).map (· + 1) := by
        -- the character is for the last case, which is only for what the others leave
        rw [closingQuote?]
        · exact hquote
        · intro next behind hc
          exact absurd hc hbackslash
      rw [List.cons_append, hnext, ih hplain, Option.map_map, List.length_cons]
      rfl

/-! ## Numbers of characters -/

/-- The digits of a number. -/
theorem exists_of_mem_toDigits {n : Nat} {c : Char} (h : c ∈ Nat.toDigits 16 n) :
    ∃ d < 16, c = Nat.digitChar d := by
  induction n using Nat.strongRecOn with
  | ind n ih =>
      rw [Nat.toDigits_eq_if (by decide)] at h
      split at h
      next hlt => exact ⟨n, hlt, List.mem_singleton.mp h⟩
      next hge =>
        rcases List.mem_append.mp h with h | h
        · exact ih (n / 16) (by omega) h
        · exact ⟨n % 16, Nat.mod_lt _ (by decide), List.mem_singleton.mp h⟩

/-- The number of a character is written without quotes and backslashes. -/
theorem of_mem_number {n : Nat} {c : Char} (h : c ∈ ['\x7b'] ++ Nat.toDigits 16 n ++ ['\x7d']) :
    Printable c ∧ c ≠ '"' ∧ c ≠ '\\' := by
  have hdigits : ∀ d < 16, Printable (Nat.digitChar d) ∧
      Nat.digitChar d ≠ '"' ∧ Nat.digitChar d ≠ '\\' := by
    decide
  rcases List.mem_append.mp h with h | h
  · rcases List.mem_append.mp h with h | h
    · rw [List.mem_singleton.mp h]
      decide
    · obtain ⟨d, hd, rfl⟩ := exists_of_mem_toDigits h
      exact hdigits d hd
  · rw [List.mem_singleton.mp h]
    decide

theorem hexDigit?_digitChar : ∀ d < 16, hexDigit? (Nat.digitChar d) = some d := by decide

theorem digitChar_ne_brace : ∀ d < 16, Nat.digitChar d ≠ '\x7d' := by decide

/-- A digit is added to the number that is read. -/
theorem unescapeFrom_number_digitChar (value : Nat) {d : Nat} (hd : d < 16) (rest : List Char) :
    unescapeFrom (.number value) (Nat.digitChar d :: rest) =
      unescapeFrom (.number (16 * value + d)) rest := by
  rw [unescapeFrom, if_neg (digitChar_ne_brace d hd), hexDigit?_digitChar d hd]

/-- **The digits of a number are read as the number.** -/
theorem unescapeFrom_number_toDigits (n : Nat) (rest : List Char) :
    unescapeFrom (.number 0) (Nat.toDigits 16 n ++ rest) = unescapeFrom (.number n) rest := by
  induction n using Nat.strongRecOn generalizing rest with
  | ind n ih =>
      rw [Nat.toDigits_eq_if (by decide)]
      split
      next hlt =>
        rw [List.singleton_append, unescapeFrom_number_digitChar 0 hlt, Nat.mul_zero, Nat.zero_add]
      next hge =>
        rw [List.append_assoc, ih (n / 16) (by omega), List.singleton_append,
          unescapeFrom_number_digitChar _ (Nat.mod_lt _ (by decide)), Nat.div_add_mod]

/-! ## Single characters -/

/-- **The ways in which a character is written.** -/
inductive WrittenAs (c : Char) : List Char → Prop where
  | itself (hprintable : Printable c) (hquote : c ≠ '"') (hbackslash : c ≠ '\\') : WrittenAs c [c]
  /-- Behind a backslash stands a letter, or the character itself. -/
  | letter (letter : Char) (hletter : Printable letter)
      (hread : ∀ rest, unescapeFrom .backslash (letter :: rest) =
        (unescapeFrom .between rest).map (c :: ·)) :
      WrittenAs c ['\\', letter]
  | number : WrittenAs c ('\\' :: 'u' :: (['\x7b'] ++ Nat.toDigits 16 c.toNat ++ ['\x7d']))

theorem writtenAs_escapeChar (c : Char) : WrittenAs c (escapeChar c) := by
  by_cases htab : c = '\t'
  · subst htab
    exact .letter 't' (by decide) fun rest => rfl
  by_cases hreturn : c = '\r'
  · subst hreturn
    exact .letter 'r' (by decide) fun rest => rfl
  by_cases hnewline : c = '\n'
  · subst hnewline
    exact .letter 'n' (by decide) fun rest => rfl
  by_cases hspecial : c = '\'' ∨ c = '"' ∨ c = '\\'
  · rcases hspecial with rfl | rfl | rfl
    · exact .letter '\'' (by decide) fun rest => rfl
    · exact .letter '"' (by decide) fun rest => rfl
    · exact .letter '\\' (by decide) fun rest => rfl
  rw [escapeChar, if_neg htab, if_neg hreturn, if_neg hnewline, if_neg hspecial]
  by_cases hprintable : 0x20 ≤ c.toNat ∧ c.toNat ≤ 0x7e
  · rw [if_pos hprintable]
    have hquote : c ≠ '"' := fun h => hspecial (Or.inr (Or.inl h))
    have hbackslash : c ≠ '\\' := fun h => hspecial (Or.inr (Or.inr h))
    exact .itself hprintable hquote hbackslash
  · rw [if_neg hprintable]
    exact .number

/-- Digits are written as they are. -/
theorem escapeChar_of_isDigit {c : Char} (h : c.isDigit = true) : escapeChar c = [c] := by
  have hrange : 48 ≤ c.toNat ∧ c.toNat ≤ 57 := by simpa [Char.isDigit_iff_toNat] using h
  have hne : ∀ d : Char, d.isDigit = false → c ≠ d := by
    rintro d hd rfl
    rw [h] at hd
    cases hd
  have hspecial : ¬(c = '\'' ∨ c = '"' ∨ c = '\\') := by
    rintro (heq | heq | heq)
    · exact hne _ (by decide) heq
    · exact hne _ (by decide) heq
    · exact hne _ (by decide) heq
  rw [escapeChar, if_neg (hne _ (by decide)), if_neg (hne _ (by decide)), if_neg (hne _ (by decide)),
    if_neg hspecial, if_pos (by omega)]

namespace WrittenAs

variable {c : Char} {written : List Char}

theorem printable (h : WrittenAs c written) : ∀ d ∈ written, Printable d := by
  cases h with
  | itself hprintable => simpa using hprintable
  | letter letter hletter => simpa using ⟨by decide, hletter⟩
  | number =>
      refine List.forall_mem_cons.mpr ⟨by decide, List.forall_mem_cons.mpr ⟨by decide, ?_⟩⟩
      exact fun d hd => (of_mem_number hd).1

/-- The closing quote is not among what is written for a character. -/
theorem closingQuote?_append (h : WrittenAs c written) (rest : List Char) :
    closingQuote? (written ++ rest) = (closingQuote? rest).map (· + written.length) := by
  cases h with
  | itself hprintable hquote hbackslash =>
      exact ChartParsing.closingQuote?_append (by simpa using ⟨hquote, hbackslash⟩) rest
  | letter letter => rfl
  | number =>
      have hnumber := ChartParsing.closingQuote?_append
        (fun d (hd : d ∈ ['\x7b'] ++ Nat.toDigits 16 c.toNat ++ ['\x7d']) => (of_mem_number hd).2) rest
      show (closingQuote? (['\x7b'] ++ Nat.toDigits 16 c.toNat ++ ['\x7d'] ++ rest)).map (· + 2) = _
      rw [hnumber, Option.map_map]
      rfl

/-- The character is read back, whatever stands behind it. -/
theorem reads (h : WrittenAs c written) (rest : List Char) :
    unescapeFrom .between (written ++ rest) = (unescapeFrom .between rest).map (c :: ·) := by
  cases h with
  | itself hprintable hquote hbackslash =>
      rw [List.singleton_append, unescapeFrom, if_neg hbackslash]
  | letter letter hletter hread => exact hread rest
  | number =>
      have hclosing : unescapeFrom (.number c.toNat) ('\x7d' :: rest) =
          (unescapeFrom .between rest).map (Char.ofNat c.toNat :: ·) := rfl
      show unescapeFrom (.number 0) (Nat.toDigits 16 c.toNat ++ ['\x7d'] ++ rest) = _
      rw [List.append_assoc, List.singleton_append, unescapeFrom_number_toDigits, hclosing,
        Char.ofNat_toNat]

end WrittenAs

/-! ## Texts -/

theorem toList_escape (text : String) : (escape text).toList = text.toList.flatMap escapeChar :=
  String.toList_ofList

theorem closingQuote?_flatMap_escapeChar (cs rest : List Char) :
    closingQuote? (cs.flatMap escapeChar ++ rest) =
      (closingQuote? rest).map (· + (cs.flatMap escapeChar).length) := by
  induction cs with
  | nil => simp
  | cons c cs ih =>
      rw [List.flatMap_cons, List.append_assoc, (writtenAs_escapeChar c).closingQuote?_append, ih,
        Option.map_map, List.length_append]
      congr 1
      funext n
      show n + (cs.flatMap escapeChar).length + (escapeChar c).length = _
      omega

theorem unescapeFrom_flatMap_escapeChar (cs : List Char) :
    unescapeFrom .between (cs.flatMap escapeChar) = some cs := by
  induction cs with
  | nil => rfl
  | cons c cs ih => rw [List.flatMap_cons, (writtenAs_escapeChar c).reads, ih, Option.map_some]

/-- **An escaped text may stand between quotes**, whatever its characters are. -/
theorem quotes_escape (text : String) : Quotes (escape text) text := by
  constructor
  case printable =>
    rw [toList_escape]
    intro d hd
    obtain ⟨c, -, hd⟩ := List.mem_flatMap.mp hd
    exact (writtenAs_escapeChar c).printable d hd
  case closes =>
    intro behind
    rw [toList_escape, closingQuote?_flatMap_escapeChar, closingQuote?, Option.map_some, Nat.zero_add]
  case reads =>
    rw [unescape?, toList_escape, unescapeFrom_flatMap_escapeChar, Option.map_some, String.ofList_toList]

example : escape "é\n\"" = "\\u\x7be9\x7d\\n\\\"" := by decide +kernel

end ChartParsing
