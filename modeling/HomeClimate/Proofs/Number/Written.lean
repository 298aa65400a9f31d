import HomeClimate.Number.Decimal
import HomeClimate.Proofs.Text.SmallLetters
import Mathlib.Data.List.TakeDrop
import Mathlib.Data.List.TakeWhile

/-!
# Numbers of digits and points

Of a text of digits and points, after a sign or none, a number can be read exactly if it has a
digit and no more than one point (`Decimal.exists_readWord?_iff`).  No word and no exponent can
be meant, since they take letters.
-/

namespace HomeClimate.Decimal

/-- A sign, or none. -/
def IsSign (sign : List Char) : Prop := sign = [] ∨ sign = ['+'] ∨ sign = ['-']

/-- Digits and points. -/
def AreNumeric (cs : List Char) : Prop := ∀ c ∈ cs, c.isDigit = true ∨ c = '.'

/-- Digits, one at least, with at most one point among them. -/
structure IsWritten (cs : List Char) : Prop where
  numeric : AreNumeric cs
  digit : ∃ c ∈ cs, c.isDigit = true
  point : cs.count '.' ≤ 1

theorem count_point_eq_zero {cs : List Char} (h : ∀ c ∈ cs, c.isDigit = true) :
    cs.count '.' = 0 :=
  List.count_eq_zero.mpr fun hpoint => absurd (h '.' hpoint) (by decide)

theorem isWritten_digits {whole : List Char} (h : ∀ c ∈ whole, c.isDigit = true) :
    IsWritten whole ↔ whole ≠ [] := by
  constructor
  · rintro ⟨-, ⟨c, hc, -⟩, -⟩
    exact List.ne_nil_of_mem hc
  · intro hne
    obtain ⟨c, hc⟩ := List.exists_mem_of_ne_nil whole hne
    refine ⟨fun d hd => .inl (h d hd), ⟨c, hc, h c hc⟩, ?_⟩
    rw [count_point_eq_zero h]
    exact Nat.zero_le 1

theorem isWritten_pointed {whole fraction : List Char} (h : ∀ c ∈ whole, c.isDigit = true)
    (h' : ∀ c ∈ fraction, c.isDigit = true) :
    IsWritten (whole ++ '.' :: fraction) ↔ whole ≠ [] ∨ fraction ≠ [] := by
  constructor
  · rintro ⟨-, ⟨c, hc, hdigit⟩, -⟩
    rcases List.mem_append.mp hc with hc | hc
    · exact .inl (List.ne_nil_of_mem hc)
    · rcases List.mem_cons.mp hc with rfl | hc
      · exact absurd hdigit (by decide)
      · exact .inr (List.ne_nil_of_mem hc)
  · intro hne
    refine ⟨fun c hc => ?_, ?_, ?_⟩
    · rcases List.mem_append.mp hc with hc | hc
      · exact .inl (h c hc)
      · rcases List.mem_cons.mp hc with rfl | hc
        · exact .inr rfl
        · exact .inl (h' c hc)
    · rcases hne with hne | hne
      · obtain ⟨c, hc⟩ := List.exists_mem_of_ne_nil whole hne
        exact ⟨c, List.mem_append_left _ hc, h c hc⟩
      · obtain ⟨c, hc⟩ := List.exists_mem_of_ne_nil fraction hne
        exact ⟨c, List.mem_append_right _ (List.mem_cons_of_mem _ hc), h' c hc⟩
    · rw [List.count_append, List.count_cons_self, count_point_eq_zero h, count_point_eq_zero h']

/-- Digits and points are digits, or digits and a point and digits and points. -/
theorem digits_of_areNumeric {cs : List Char} (h : AreNumeric cs) :
    ∃ digits rest, cs = digits ++ rest ∧ spanDigits cs = (digits, rest) ∧
      (∀ c ∈ digits, c.isDigit = true) ∧
      (rest = [] ∨ ∃ more, rest = '.' :: more ∧ AreNumeric more) := by
  refine ⟨cs.takeWhile Char.isDigit, cs.dropWhile Char.isDigit,
    (List.takeWhile_append_dropWhile).symm, List.span_eq_takeWhile_dropWhile _ _,
    List.all_eq_true.mp List.all_takeWhile, ?_⟩
  cases hrest : cs.dropWhile Char.isDigit with
  | nil => exact .inl rfl
  | cons c more =>
      right
      have hsub : ∀ d ∈ c :: more, d.isDigit = true ∨ d = '.' := fun d hd =>
        h d (List.dropWhile_subset Char.isDigit (hrest ▸ hd))
      have hlength : 0 < (cs.dropWhile Char.isDigit).length := by
        rw [hrest]
        exact Nat.succ_pos _
      have hnot := List.dropWhile_get_zero_not Char.isDigit cs hlength
      simp only [hrest, List.get_eq_getElem, List.getElem_cons_zero] at hnot
      obtain rfl := (hsub c List.mem_cons_self).resolve_left hnot
      exact ⟨more, rfl, fun d hd => hsub d (List.mem_cons_of_mem _ hd)⟩

theorem isSome_readUnsigned?_iff {cs : List Char} (h : AreNumeric cs) (negative : Bool) :
    (readUnsigned? negative cs).isSome = true ↔ IsWritten cs := by
  obtain ⟨whole, rest, rfl, hspan, hwhole, hrest⟩ := digits_of_areNumeric h
  rw [readUnsigned?, hspan]
  rcases hrest with rfl | ⟨more, rfl, hmore⟩
  · -- no point
    rw [List.append_nil, isWritten_digits hwhole]
    cases whole with
    | nil => simp
    | cons c whole => simp [readExponent?]
  obtain ⟨fraction, rest, rfl, hspan', hfraction, hrest'⟩ := digits_of_areNumeric hmore
  simp only [hspan']
  rcases hrest' with rfl | ⟨more, rfl, -⟩
  · -- one point
    rw [List.append_nil, isWritten_pointed hwhole hfraction]
    cases whole with
    | nil => cases fraction <;> simp [readExponent?]
    | cons c whole => simp [readExponent?]
  · -- a second point, which no exponent begins with
    have hnone : readExponent? ('.' :: more) = none := rfl
    rw [hnone]
    refine iff_of_false (by simp) fun hw => ?_
    have hpoint := hw.point
    simp only [List.count_append, List.count_cons_self] at hpoint
    omega

/-- A sign is read, and digits and points have none. -/
theorem spanSign_append {sign cs : List Char} (hsign : IsSign sign) (h : AreNumeric cs) :
    spanSign (sign ++ cs) = (decide (sign = ['-']), cs) := by
  rcases hsign with rfl | rfl | rfl
  · rw [List.nil_append]
    unfold spanSign
    split
    next rest => exact absurd (h '-' List.mem_cons_self) (by decide)
    next rest => exact absurd (h '+' List.mem_cons_self) (by decide)
    · rfl
  · rfl
  · rfl

/-- What is read as a sign is one, or none. -/
theorem exists_spanSign (text : List Char) :
    ∃ sign rest, text = sign ++ rest ∧ IsSign sign ∧
      spanSign text = (decide (sign = ['-']), rest) := by
  unfold spanSign
  split
  next rest => exact ⟨['-'], rest, rfl, .inr (.inr rfl), rfl⟩
  next rest => exact ⟨['+'], rest, rfl, .inr (.inl rfl), rfl⟩
  · exact ⟨[], text, rfl, .inl rfl, rfl⟩

/-- Digits and points are no letters. -/
theorem map_toLower_of_areNumeric {cs : List Char} (h : AreNumeric cs) :
    cs.map Char.toLower = cs := by
  have hcapitals : ∀ n ∈ Text.capitalCodes,
      ¬ ((Char.ofNat n).isDigit = true ∨ Char.ofNat n = '.') := by decide
  refine (List.map_congr_left fun c hc => ?_).trans (List.map_id cs)
  refine (Text.toLower_cases c).resolve_right fun hcapital => hcapitals c.toNat hcapital ?_
  rw [Char.ofNat_toNat]
  exact h c hc

theorem exists_readWord?_iff {sign cs : List Char} (hsign : IsSign sign) (h : AreNumeric cs) :
    (∃ d, readWord? (sign ++ cs) = some (.finite d)) ↔ IsWritten cs := by
  rw [← isSome_readUnsigned?_iff h (decide (sign = ['-'])), readWord?, spanSign_append hsign h]
  dsimp only
  rw [map_toLower_of_areNumeric h]
  have hword : ∀ c word, c ∈ word → ¬ (c.isDigit = true ∨ c = '.') → cs ≠ word := by
    rintro c word hc hnot rfl
    exact hnot (h c hc)
  have hinfinite : cs ∉ infinityWords := by
    intro hmem
    simp only [infinityWords, List.mem_cons, List.not_mem_nil, or_false] at hmem
    exact hmem.elim (hword 'i' _ (by decide) (by decide)) (hword 'i' _ (by decide) (by decide))
  rw [if_neg hinfinite, if_neg (hword 'n' _ (by decide) (by decide))]
  cases readUnsigned? (decide (sign = ['-'])) cs with
  | none => simp
  | some d => simp

end HomeClimate.Decimal
