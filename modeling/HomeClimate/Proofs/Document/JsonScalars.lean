import HomeClimate.Document.Json
import Mathlib.Data.List.TakeDrop
import Mathlib.Data.List.TakeWhile

/-!
# Texts and numbers of JSON

What is written as a text between quotes is read as the same text, whatever stands
after the closing quote (`textBody?_escape`): each character by itself makes the part
of the text that is read as this character.

A number ends where something comes that is no part of a number, and what comes then
does not matter (`number?_append`).  In a document on many lines this is a comma, a
line break, or the end; `Inert` says so.  A whole number of 64 bits is read as itself
(`number?_toDigits`).
-/

namespace HomeClimate.Json

/-! ## Texts -/

theorem hexValue?_digitChar {n : Nat} (h : n < 16) : Text.hexValue? n.digitChar = some n := by
  revert n
  decide

/-- A control character by its number is read as this character. -/
theorem unicode?_of_control {c : Char} (h : c.toNat < 32) (rest : List Char) :
    unicode? ('0' :: '0' :: (Nat.toDigits 16 (c.toNat / 16) ++ (Nat.toDigits 16 (c.toNat % 16) ++
      rest))) = some (some c, rest) := by
  have hhigh : c.toNat / 16 < 16 := by omega
  have hlow : c.toNat % 16 < 16 := by omega
  have hzero : Text.hexValue? '0' = some 0 := rfl
  have hunit : ((0 * 16 + 0) * 16 + c.toNat / 16) * 16 + c.toNat % 16 = c.toNat := by omega
  rw [Nat.toDigits_of_lt_base hhigh, Nat.toDigits_of_lt_base hlow]
  simp only [List.cons_append, List.nil_append, unicode?, hex4?, hzero,
    hexValue?_digitChar hhigh, hexValue?_digitChar hlow, Option.bind_eq_bind, Option.bind_some,
    hunit]
  rw [if_pos (Or.inl (by omega)), Char.ofNat_toNat]

/-- A text that goes on after one character. -/
def prepend (c : Char) (text : Option (List Char) × List Char) : Option (List Char) × List Char :=
  (text.1.map (c :: ·), text.2)

theorem textBody?_simple {c letter : Char} (hletter : letter ≠ 'u') (hc : escaped? letter = some c)
    (rest : List Char) (fuel : Nat) :
    textBody? (fuel + 1) ('\\' :: letter :: rest) = (textBody? fuel rest).map (prepend c) := by
  rw [textBody?, hc]
  · cases textBody? fuel rest <;> rfl
  · exact hletter

theorem textBody?_control {c : Char} (h : c.toNat < 32) (rest : List Char) (fuel : Nat) :
    textBody? (fuel + 1) (['\\', 'u', '0', '0'] ++ Nat.toDigits 16 (c.toNat / 16) ++
      Nat.toDigits 16 (c.toNat % 16) ++ rest) = (textBody? fuel rest).map (prepend c) := by
  simp only [List.append_assoc, List.cons_append, List.nil_append]
  rw [textBody?, unicode?_of_control h, Option.bind_eq_bind, Option.bind_some]
  dsimp only
  cases textBody? fuel rest <;> rfl

theorem textBody?_plain {c : Char} (hquote : c ≠ '"') (hslash : c ≠ '\\') (h : ¬ c.toNat < 32)
    (rest : List Char) (fuel : Nat) :
    textBody? (fuel + 1) (c :: rest) = (textBody? fuel rest).map (prepend c) := by
  have hplain : ¬ (c = '\\' ∨ c.toNat < 32) := not_or.mpr ⟨hslash, h⟩
  rw [textBody?, if_neg hplain]
  · cases textBody? fuel rest <;> rfl
  · exact hquote
  · exact fun _ heq => absurd heq hslash
  · exact fun _ _ heq => absurd heq hslash

/-- A character is read from what is written for it. -/
theorem textBody?_escape_append (c : Char) (rest : List Char) (fuel : Nat) :
    textBody? (fuel + 1) (escape c ++ rest) = (textBody? fuel rest).map (prepend c) := by
  rw [escape]
  split_ifs with hquote hslash hline hreturn htab hback hform hcontrol
  · subst hquote
    exact textBody?_simple (by decide) rfl rest fuel
  · subst hslash
    exact textBody?_simple (by decide) rfl rest fuel
  · subst hline
    exact textBody?_simple (by decide) rfl rest fuel
  · subst hreturn
    exact textBody?_simple (by decide) rfl rest fuel
  · subst htab
    exact textBody?_simple (by decide) rfl rest fuel
  · have hc : escaped? 'b' = some c := by rw [← Char.ofNat_toNat c, hback]; rfl
    exact textBody?_simple (by decide) hc rest fuel
  · have hc : escaped? 'f' = some c := by rw [← Char.ofNat_toNat c, hform]; rfl
    exact textBody?_simple (by decide) hc rest fuel
  · exact textBody?_control hcontrol rest fuel
  · exact textBody?_plain hquote hslash hcontrol rest fuel

theorem textBody?_escape (body rest : List Char) {fuel : Nat} (h : body.length < fuel) :
    textBody? fuel (body.flatMap escape ++ '"' :: rest) = some (some body, rest) := by
  induction body generalizing fuel with
  | nil =>
      obtain ⟨fuel, rfl⟩ := Nat.exists_eq_succ_of_ne_zero (Nat.ne_of_gt h)
      rfl
  | cons c body ih =>
      obtain ⟨fuel, rfl⟩ := Nat.exists_eq_succ_of_ne_zero (Nat.ne_of_gt (Nat.zero_lt_of_lt h))
      rw [List.flatMap_cons, List.append_assoc, textBody?_escape_append,
        ih (Nat.lt_of_succ_lt_succ h)]
      rfl

/-! ## Numbers -/

/-- What comes after a value on a document of many lines: a comma, a line break, or nothing. -/
def Inert (tail : List Char) : Prop := ∀ c ∈ tail.head?, c = ',' ∨ c = '\n'

theorem spanDigits_append (cs : List Char) {tail : List Char} (h : Inert tail) :
    Decimal.spanDigits (cs ++ tail) =
      ((Decimal.spanDigits cs).1, (Decimal.spanDigits cs).2 ++ tail) := by
  simp only [Decimal.spanDigits, List.span_eq_takeWhile_dropWhile]
  induction cs with
  | nil =>
      cases tail with
      | nil => rfl
      | cons c rest =>
          rcases h c rfl with rfl | rfl
          · rfl
          · rfl
  | cons c cs ih =>
      simp only [List.cons_append, List.takeWhile_cons, List.dropWhile_cons]
      cases c.isDigit with
      | true => simpa using ih
      | false => rfl

theorem wholeDigits?_append (cs : List Char) {tail : List Char} (h : Inert tail) :
    wholeDigits? (cs ++ tail) =
      (wholeDigits? cs).map fun (digits, rest) => (digits, rest ++ tail) := by
  rw [wholeDigits?, wholeDigits?, spanDigits_append cs h]
  dsimp only
  split <;> rfl

theorem fraction?_append (cs : List Char) {tail : List Char} (h : Inert tail) :
    fraction? (cs ++ tail) = (fraction? cs).map fun (digits, rest) => (digits, rest ++ tail) := by
  cases cs with
  | nil =>
      cases tail with
      | nil => rfl
      | cons c rest => rcases h c rfl with rfl | rfl <;> rfl
  | cons c cs =>
      by_cases hpoint : c = '.'
      · subst hpoint
        rw [List.cons_append, fraction?, fraction?, spanDigits_append cs h]
        dsimp only
        split <;> rfl
      · have hnone : ∀ rest, fraction? (c :: rest) = some ([], c :: rest) := by
          intro rest
          rw [fraction?]
          exact fun _ heq => hpoint (List.cons.inj heq).1
        rw [List.cons_append, hnone, hnone]
        rfl

theorem spanSign_append (cs : List Char) {tail : List Char} (h : Inert tail) :
    Decimal.spanSign (cs ++ tail) =
      ((Decimal.spanSign cs).1, (Decimal.spanSign cs).2 ++ tail) := by
  cases cs with
  | nil =>
      cases tail with
      | nil => rfl
      | cons c rest => rcases h c rfl with rfl | rfl <;> rfl
  | cons c cs =>
      by_cases hminus : c = '-'
      · subst hminus
        rfl
      by_cases hplus : c = '+'
      · subst hplus
        rfl
      have hnone : ∀ rest, Decimal.spanSign (c :: rest) = (false, c :: rest) := by
        intro rest
        rw [Decimal.spanSign]
        · exact fun _ heq => hminus (List.cons.inj heq).1
        · exact fun _ heq => hplus (List.cons.inj heq).1
      rw [List.cons_append, hnone, hnone]
      rfl

theorem exponent?_append (cs : List Char) {tail : List Char} (h : Inert tail) :
    exponent? (cs ++ tail) = (exponent? cs).map fun (e, rest) => (e, rest ++ tail) := by
  cases cs with
  | nil =>
      cases tail with
      | nil => rfl
      | cons c rest => rcases h c rfl with rfl | rfl <;> rfl
  | cons c cs =>
      rw [List.cons_append, exponent?, exponent?, spanSign_append cs h]
      dsimp only
      rw [spanDigits_append _ h]
      split_ifs <;> rfl

theorem number?_append (negative : Bool) (cs : List Char) {tail : List Char} (h : Inert tail) :
    number? negative (cs ++ tail) =
      (number? negative cs).map fun (n, rest) => (n, rest ++ tail) := by
  rw [number?, number?, wholeDigits?_append cs h]
  cases wholeDigits? cs with
  | none => rfl
  | some whole =>
      obtain ⟨whole, rest⟩ := whole
      have hpoint : (rest ++ tail).head? = some '.' ↔ rest.head? = some '.' := by
        cases rest with
        | nil =>
            refine ⟨fun hhead => ?_, nofun⟩
            rcases h '.' hhead with heq | heq <;> cases heq
        | cons c rest => exact Iff.rfl
      simp only [Option.map_some, Option.bind_eq_bind, Option.bind_some, fraction?_append rest h,
        hpoint]
      cases fraction? rest with
      | none => rfl
      | some fraction =>
          obtain ⟨fraction, rest⟩ := fraction
          simp only [Option.map_some, Option.bind_some, exponent?_append rest h]
          cases exponent? rest with
          | none => rfl
          | some exponent =>
              obtain ⟨exponent, rest⟩ := exponent
              simp only [Option.map_some, Option.bind_some]
              split_ifs <;> rfl

/-! ## Whole numbers -/

theorem digitsValue_toDigits (n : Nat) : Decimal.digitsValue 0 (Nat.toDigits 10 n) = n :=
  Nat.ofDigitChars_ten_toDigits

/-- The digits of a number above zero start with no zero. -/
theorem head?_toDigits_ne {n : Nat} (h : 0 < n) : (Nat.toDigits 10 n).head? ≠ some '0' := by
  induction n using Nat.strongRecOn with
  | ind n ih =>
      by_cases hsmall : n < 10
      · have hdigit : ∀ d < 10, 0 < d → d.digitChar ≠ '0' := by decide
        rw [Nat.toDigits_of_lt_base hsmall, List.head?_cons]
        exact fun hhead => hdigit n hsmall h (Option.some.inj hhead)
      · have hlarge : 10 ≤ n := Nat.le_of_not_lt hsmall
        have hfront := ih (n / 10) (by omega) (by omega)
        rw [Nat.toDigits_of_base_le (by decide) hlarge]
        cases hdigits : Nat.toDigits 10 (n / 10) with
        | nil => exact absurd hdigits Nat.toDigits_ne_nil
        | cons c cs =>
            rw [hdigits] at hfront
            exact hfront

theorem wholeDigits?_toDigits (n : Nat) :
    wholeDigits? (Nat.toDigits 10 n) = some (Nat.toDigits 10 n, []) := by
  have hall : ∀ c ∈ Nat.toDigits 10 n, c.isDigit = true :=
    fun c hc => Nat.isDigit_of_mem_toDigits (by decide) (by decide) hc
  have hspan : Decimal.spanDigits (Nat.toDigits 10 n) = (Nat.toDigits 10 n, []) := by
    rw [Decimal.spanDigits, List.span_eq_takeWhile_dropWhile, List.takeWhile_eq_self_iff.mpr hall,
      List.dropWhile_eq_nil_iff.mpr hall]
  rw [wholeDigits?, hspan]
  dsimp only
  split
  · rename_i hnil
    exact absurd hnil Nat.toDigits_ne_nil
  · rename_i hzero
    rw [hzero]
  · rename_i rest hnot hzeros
    rcases Nat.eq_zero_or_pos n with rfl | hpos
    · cases hzeros
      exact absurd rfl hnot
    · exact absurd (congrArg List.head? hzeros) (head?_toDigits_ne hpos)
  · rfl

/-- A whole number of 64 bits is read as itself. -/
theorem number?_toDigits {negative : Bool} {n : Nat} {i : Int}
    (hi : (if negative then -(n : Int) else n) = i) (hfits : fits64 i = true)
    (hzero : ¬ (negative = true ∧ n = 0)) :
    number? negative (Nat.toDigits 10 n) = some (.integer i, []) := by
  rw [number?, wholeDigits?_toDigits]
  simp only [Option.bind_eq_bind, Option.bind_some, fraction?, exponent?, List.append_nil,
    digitsValue_toDigits, hi]
  rw [if_pos]
  exact ⟨nofun, rfl, hfits, hzero⟩

end HomeClimate.Json
