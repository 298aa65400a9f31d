import HomeClimate.Proofs.Number.Written
import HomeClimate.Proofs.Schedule.SettingsWords

/-!
# Numbers in words

A word for the setpoint can be read if its second piece begins with a number
(`SettingsText.isSome_setpoint?_iff`), and a word for the dump priority if one of its pieces is a
whole number of 32 bits (`SettingsText.isSome_dumpPriority?_iff`).  Both are said of the letters
that are written, and not of the way they are read.
-/

namespace HomeClimate

variable {ν : Type} [Scalar ν]

namespace SettingsText

open Decimal (IsSign IsWritten AreNumeric)

theorem isNumeric_iff {c : Char} : isNumeric c = true ↔ c.isDigit = true ∨ c = '.' := by
  rw [isNumeric, Bool.or_eq_true, decide_eq_true_eq]

/-! ## Setpoints -/

/-- The digits and points after a sign or none, as far as they go, are a number. -/
def BeginsWithNumber (text : List Char) : Prop :=
  ∃ sign number rest, text = sign ++ (number ++ rest) ∧ IsSign sign ∧ IsWritten number ∧
    ∀ c ∈ rest.head?, isNumeric c = false

theorem span_append {number rest : List Char} (h : AreNumeric number)
    (hrest : ∀ c ∈ rest.head?, isNumeric c = false) :
    (number ++ rest).span isNumeric = (number, rest) := by
  have hnumeric : ∀ c ∈ number, isNumeric c = true := fun c hc => isNumeric_iff.mpr (h c hc)
  have hstop : rest.takeWhile isNumeric = [] ∧ rest.dropWhile isNumeric = rest := by
    cases rest with
    | nil => exact ⟨rfl, rfl⟩
    | cons c rest =>
        have hc : isNumeric c = false := hrest c rfl
        rw [List.takeWhile_cons, List.dropWhile_cons, hc]
        exact ⟨rfl, rfl⟩
  rw [List.span_eq_takeWhile_dropWhile, List.takeWhile_append_of_pos hnumeric,
    List.dropWhile_append_of_pos hnumeric, hstop.1, hstop.2, List.append_nil]

theorem spanNumber_append {sign number rest : List Char} (hsign : IsSign sign)
    (h : AreNumeric number) (hne : number ≠ []) (hrest : ∀ c ∈ rest.head?, isNumeric c = false) :
    spanNumber (sign ++ (number ++ rest)) = (sign ++ number, rest) := by
  rcases hsign with rfl | rfl | rfl
  · cases number with
    | nil => exact absurd rfl hne
    | cons c number =>
        obtain ⟨hc, hnumber⟩ := List.forall_mem_cons.mp h
        have hspan := span_append hnumber hrest
        simp only [List.nil_append, List.cons_append, spanNumber, isNumeric_iff.mpr hc, hspan,
          Bool.true_or, if_true]
  · simp only [List.cons_append, List.nil_append, spanNumber, span_append h hrest]
    rfl
  · simp only [List.cons_append, List.nil_append, spanNumber, span_append h hrest]
    rfl

/-- Every text begins with digits and points as far as they go, which may be none. -/
theorem exists_numeric (cs : List Char) :
    ∃ number rest, cs = number ++ rest ∧ AreNumeric number ∧
      ∀ c ∈ rest.head?, isNumeric c = false := by
  refine ⟨cs.takeWhile isNumeric, cs.dropWhile isNumeric, (List.takeWhile_append_dropWhile).symm,
    fun c hc => isNumeric_iff.mp (List.all_eq_true.mp List.all_takeWhile c hc), fun c hc => ?_⟩
  have hstop := List.head?_dropWhile_not isNumeric cs
  rw [hc] at hstop
  exact hstop

/-- What is cut off is a sign or none, and digits and points as far as they go. -/
theorem exists_spanNumber (text : List Char) :
    ∃ sign number rest, text = sign ++ (number ++ rest) ∧ IsSign sign ∧ AreNumeric number ∧
      (∀ c ∈ rest.head?, isNumeric c = false) ∧ spanNumber text = (sign ++ number, rest) := by
  have hempty : AreNumeric [] := fun c hc => nomatch hc
  cases text with
  | nil => exact ⟨[], [], [], rfl, .inl rfl, hempty, fun c hc => (nomatch hc), rfl⟩
  | cons c cs =>
      obtain ⟨number, rest, rfl, hnumber, hrest⟩ := exists_numeric cs
      have hspan := span_append hnumber hrest
      by_cases hc : isNumeric c = true
      · refine ⟨[], c :: number, rest, rfl, .inl rfl,
          List.forall_mem_cons.mpr ⟨isNumeric_iff.mp hc, hnumber⟩, hrest, ?_⟩
        simp only [spanNumber, hc, hspan, Bool.true_or, if_true, List.nil_append]
      by_cases hsign : c = '-' ∨ c = '+'
      · refine ⟨[c], number, rest, rfl, .inr ?_, hnumber, hrest, ?_⟩
        · rcases hsign with rfl | rfl
          · exact .inr rfl
          · exact .inl rfl
        · have hgoes : (isNumeric c || decide (c = '-') || decide (c = '+')) = true := by
            rcases hsign with rfl | rfl <;> rfl
          simp only [spanNumber, hgoes, hspan, if_true, List.singleton_append]
      · obtain ⟨hminus, hplus⟩ := not_or.mp hsign
        refine ⟨[], [], c :: (number ++ rest), rfl, .inl rfl, hempty, ?_, ?_⟩
        · rintro d ⟨⟩
          exact Bool.eq_false_iff.mpr hc
        · simp [spanNumber, hc, hminus, hplus]

theorem isSome_leadingNumber?_iff {text : List Char} :
    (leadingNumber? text : Option (ν × List Char)).isSome = true ↔ BeginsWithNumber text := by
  obtain ⟨sign, number, rest, rfl, hsign, hnumber, hrest, hcut⟩ := exists_spanNumber text
  have hread : (leadingNumber? (sign ++ (number ++ rest)) : Option (ν × List Char)).isSome = true ↔
      ∃ d, Decimal.readWord? (sign ++ number) = some (.finite d) := by
    rw [leadingNumber?, hcut]
    dsimp only
    split
    next d hd => exact iff_of_true rfl ⟨d, hd⟩
    next hnot => exact iff_of_false Bool.false_ne_true fun ⟨d, hd⟩ => hnot d hd
  rw [hread, Decimal.exists_readWord?_iff hsign hnumber]
  constructor
  · exact fun hwritten => ⟨sign, number, rest, rfl, hsign, hwritten, hrest⟩
  · rintro ⟨sign', number', rest', heq, hsign', hwritten, hrest'⟩
    have hne : number' ≠ [] := by
      obtain ⟨c, hc, -⟩ := hwritten.digit
      exact List.ne_nil_of_mem hc
    -- both are what is cut off, and the sign is told from the rest by what is numeric
    rw [heq, spanNumber_append hsign' hwritten.numeric hne hrest'] at hcut
    obtain ⟨hfront, -⟩ := Prod.mk.inj hcut
    rw [← Decimal.exists_readWord?_iff hsign hnumber, ← hfront]
    exact (Decimal.exists_readWord?_iff hsign' hwritten.numeric).mpr hwritten

/-- The second piece of a word begins with a number. -/
def HasNumber (word : List Char) : Prop :=
  ∃ first second rest, piecesOf word = first :: second :: rest ∧ BeginsWithNumber second

theorem hasNumber_iff {word first second : List Char} {rest : List (List Char)}
    (h : piecesOf word = first :: second :: rest) : HasNumber word ↔ BeginsWithNumber second := by
  rw [HasNumber, h]
  constructor
  · rintro ⟨_, _, _, heq, hbegins⟩
    cases heq
    exact hbegins
  · exact fun hbegins => ⟨first, second, rest, rfl, hbegins⟩

theorem not_hasNumber {word : List Char} (h : (piecesOf word).length ≤ 1) : ¬ HasNumber word := by
  rintro ⟨first, second, rest, hpieces, -⟩
  rw [hpieces, List.length_cons, List.length_cons] at h
  omega

theorem isSome_setpoint?_iff {word : List Char} :
    (setpoint? word : Option ν).isSome = true ↔ HasNumber word := by
  rw [setpoint?, setpoint]
  cases hpieces : piecesOf word with
  | nil => exact iff_of_false Bool.false_ne_true (not_hasNumber (hpieces ▸ Nat.zero_le 1))
  | cons first more =>
      cases more with
      | nil => exact iff_of_false Bool.false_ne_true (not_hasNumber (hpieces ▸ Nat.le_refl 1))
      | cons second rest =>
          rw [hasNumber_iff hpieces, ← isSome_leadingNumber?_iff (ν := ν)]
          dsimp only
          cases (leadingNumber? second : Option (ν × List Char)) with
          | none => exact Iff.rfl
          | some n => exact iff_of_true rfl rfl

/-! ## Whole numbers -/

/-- Digits after a sign or none, for a number of 32 bits. -/
def IsInteger32 (text : List Char) : Prop :=
  ∃ sign digits, text = sign ++ digits ∧ IsSign sign ∧ digits ≠ [] ∧
    (∀ c ∈ digits, c.isDigit = true) ∧
    (if sign = ['-'] then Decimal.digitsValue 0 digits ≤ twoTo 31
      else Decimal.digitsValue 0 digits < twoTo 31)

theorem fitsSigned_iff {negative : Bool} {n : Nat} :
    fitsSigned 32 (if negative then -(n : Int) else n) = true ↔
      if negative = true then n ≤ twoTo 31 else n < twoTo 31 := by
  have hpos := twoTo_pos 31
  have hleast : leastSigned 32 = -(twoTo 31 : Int) := rfl
  have hgreatest : greatestSigned 32 = (twoTo 31 : Int) - 1 := rfl
  rw [fitsSigned, hleast, hgreatest, Bool.and_eq_true, decide_eq_true_eq, decide_eq_true_eq]
  cases negative with
  | true =>
      rw [if_pos rfl, if_pos rfl]
      omega
  | false =>
      rw [if_neg Bool.false_ne_true, if_neg Bool.false_ne_true]
      omega

theorem isSome_integer32?_iff {text : List Char} :
    (integer32? text).isSome = true ↔ IsInteger32 text := by
  obtain ⟨sign, digits, rfl, hsign, hspan⟩ := Decimal.exists_spanSign text
  have hread : (integer32? (sign ++ digits)).isSome = true ↔ digits ≠ [] ∧
      (∀ c ∈ digits, c.isDigit = true) ∧
      (if decide (sign = ['-']) = true then Decimal.digitsValue 0 digits ≤ twoTo 31
        else Decimal.digitsValue 0 digits < twoTo 31) := by
    have hnone : (digits.isEmpty || !digits.all Char.isDigit) = true ↔
        ¬ (digits ≠ [] ∧ ∀ c ∈ digits, c.isDigit = true) := by
      rw [Bool.or_eq_true, List.isEmpty_iff, Bool.not_eq_true', ← Bool.not_eq_true,
        List.all_eq_true, not_and_or, not_not]
    rw [integer32?, hspan, ← fitsSigned_iff, ← and_assoc]
    dsimp only
    split
    next h => exact iff_of_false Bool.false_ne_true fun hdigits => hnone.mp h hdigits.1
    next h =>
      rw [and_iff_right (not_not.mp fun hnot => h (hnone.mpr hnot))]
      exact Option.isSome_ite
  rw [hread]
  constructor
  · rintro ⟨hne, hdigits, hfits⟩
    exact ⟨sign, digits, rfl, hsign, hne, hdigits, by simpa using hfits⟩
  · rintro ⟨sign', digits', heq, hsign', hne, hdigits, hfits⟩
    have hspan' := Decimal.spanSign_append hsign' fun c hc => .inl (hdigits c hc)
    rw [← heq, hspan] at hspan'
    obtain ⟨hsame, rfl⟩ := Prod.mk.inj hspan'
    rw [hsame]
    exact ⟨hne, hdigits, by simpa using hfits⟩

/-- A piece of a word is a whole number of 32 bits. -/
def HasInteger32 (word : List Char) : Prop := ∃ piece ∈ piecesOf word, IsInteger32 piece

theorem isSome_dumpPriority?_iff {word : List Char} :
    (dumpPriority? word).isSome = true ↔ HasInteger32 word := by
  rw [dumpPriority?, List.findSome?_isSome_iff]
  exact exists_congr fun piece => and_congr_right fun _ => isSome_integer32?_iff

/-- A word can be read if it has the number that its kind takes. -/
theorem isReadable_iff {word : List Char} :
    IsReadable ν word ↔
      (kind? word = some .setpoint → HasNumber word) ∧
      (kind? word = some .dump → HasInteger32 word) := by
  rw [IsReadable, ← isSome_setpoint?_iff (ν := ν), ← isSome_dumpPriority?_iff]
  cases kind? word with
  | none => simp
  | some k => cases k <;> simp

end SettingsText

end HomeClimate
