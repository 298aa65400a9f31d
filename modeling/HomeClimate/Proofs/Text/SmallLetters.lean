import HomeClimate.Proofs.Text.Blanks
import HomeClimate.Text.Lowercase

/-!
# Small letters of plain texts

The letters of a text depend on their neighbours only if there is a sigma, and on tables only
outside the ASCII letters.  So a text of ASCII characters and blanks of all kinds is made small
letter by letter (`lowercase_of_isPlain`).

What holds of a small letter is checked on the capitals, of which there are few
(`toLower_cases`), and what holds of a blank on the blanks (`toNat_mem_blankCodes`).
-/

namespace HomeClimate.Text

/-- The code points of the blanks. -/
def blankCodes : List Nat :=
  [9, 10, 11, 12, 13, 32, 0x85, 0xA0, 0x1680, 0x2000, 0x2001, 0x2002, 0x2003, 0x2004, 0x2005,
   0x2006, 0x2007, 0x2008, 0x2009, 0x200A, 0x2028, 0x2029, 0x202F, 0x205F, 0x3000]

theorem toNat_mem_blankCodes {c : Char} (h : isBlank c = true) : c.toNat ∈ blankCodes := by
  simp only [isBlank, Bool.or_eq_true, Bool.and_eq_true, decide_eq_true_eq, beq_iff_eq] at h
  simp only [blankCodes, List.mem_cons, List.not_mem_nil, or_false]
  omega

/-- The code points of the ASCII capitals. -/
def capitalCodes : List Nat := List.range' 65 26

/-- A character is its own small letter, or a capital. -/
theorem toLower_cases (c : Char) : c.toLower = c ∨ c.toNat ∈ capitalCodes := by
  by_cases h : c.val ≥ 'A'.val ∧ c.val ≤ 'Z'.val
  · right
    have hlow : 65 ≤ c.toNat := h.1
    have hhigh : c.toNat ≤ 90 := h.2
    rw [capitalCodes, List.mem_range'_1]
    omega
  · exact .inl (dif_neg h)

/-- What is the same for a capital and its small letter is the same for all characters. -/
theorem eq_toLower {f : Char → Bool}
    (h : ∀ n ∈ capitalCodes, f (Char.ofNat n).toLower = f (Char.ofNat n)) (c : Char) :
    f c.toLower = f c := by
  rcases toLower_cases c with hc | hc
  · rw [hc]
  · have hcode := h c.toNat hc
    rwa [Char.ofNat_toNat] at hcode

theorem isBlank_toLower (c : Char) : isBlank c.toLower = isBlank c :=
  eq_toLower (by decide +kernel) c

theorem AreBlanks.map_toLower {cs : List Char} (h : AreBlanks cs) :
    AreBlanks (cs.map Char.toLower) := by
  intro c hc
  obtain ⟨c', hc', rfl⟩ := List.mem_map.mp hc
  rw [isBlank_toLower]
  exact h c' hc'

/-- The small letters of a word, without the blanks around it. -/
theorem trim_map_toLower (cs : List Char) : trim (cs.map Char.toLower) = (trim cs).map Char.toLower :=
  trim_map isBlank_toLower cs

/-- A character of the ASCII set, or a blank. -/
def IsPlain (c : Char) : Prop := c.toNat < 128 ∨ isBlank c = true

/-- The same letter in the other case is as plain. -/
theorem isPlain_of_toLower_eq {c c' : Char} (h : c.toLower = c'.toLower) (hc' : c'.toNat < 128) :
    IsPlain c := by
  have hascii : ∀ d : Char, decide (d.toLower.toNat < 128) = decide (d.toNat < 128) :=
    eq_toLower (f := fun d => decide (d.toNat < 128)) (by decide +kernel)
  have hc := hascii c
  rw [h, hascii c', decide_eq_true hc'] at hc
  exact .inl (of_decide_eq_true hc.symm)

theorem toLower_of_isPlain {c : Char} (h : IsPlain c) :
    smallLetter c = c.toLower ∧ c ≠ capitalSigma ∧ c ≠ 'İ' := by
  rcases h with hascii | hblank
  · refine ⟨if_pos hascii, ?_, ?_⟩
    all_goals
      rintro rfl
      exact absurd hascii (by decide)
  · have hcodes : ∀ n ∈ blankCodes, smallLetter (Char.ofNat n) = (Char.ofNat n).toLower ∧
        Char.ofNat n ≠ capitalSigma ∧ Char.ofNat n ≠ 'İ' := by decide +kernel
    have hcode := hcodes c.toNat (toNat_mem_blankCodes hblank)
    rwa [Char.ofNat_toNat] at hcode

/-- A plain text is made small letter by letter. -/
theorem lowercase_of_isPlain {cs : List Char} (h : ∀ c ∈ cs, IsPlain c) :
    lowercase cs = cs.map Char.toLower := by
  have hafter : ∀ before, lowercaseAfter before cs = cs.map Char.toLower := by
    induction cs with
    | nil => exact fun _ => rfl
    | cons c cs ih =>
        obtain ⟨hc, hrest⟩ := List.forall_mem_cons.mp h
        obtain ⟨hsmall, hsigma, hdotted⟩ := toLower_of_isPlain hc
        intro before
        rw [lowercaseAfter, ih hrest]
        simp only [if_neg hsigma, if_neg hdotted, hsmall]
        rfl
  exact hafter []

end HomeClimate.Text
