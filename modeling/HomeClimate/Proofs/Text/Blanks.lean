import HomeClimate.Text.Blank
import Mathlib.Data.List.DropRight
import Mathlib.Tactic.Common

/-!
# Trimmed texts and their pieces

A text is blanks, its trimmed text and blanks again (`exists_blanks`), and blanks that are put
around a text do not change the trimmed one (`trim_blanks`).

The pieces between separators are those of the library (`splitOn_eq_splitOnP`), so a text that is
put together at a separator has the pieces of both parts.  What is put before or after a text and
has no separators goes into its first or its last piece.
-/

namespace HomeClimate.Text

/-- The characters of a text are blanks. -/
def AreBlanks (cs : List Char) : Prop := ∀ c ∈ cs, isBlank c = true

theorem areBlanks_nil : AreBlanks [] := fun _ hc => nomatch hc

/-! ## Trimming -/

theorem trim_eq (cs : List Char) : trim cs = (cs.dropWhile isBlank).rdropWhile isBlank := rfl

theorem trim_eq_nil {cs : List Char} : trim cs = [] ↔ AreBlanks cs := by
  rw [trim_eq, List.rdropWhile_eq_nil_iff]
  constructor
  · intro h c hc
    rw [← List.takeWhile_append_dropWhile (p := isBlank) (l := cs)] at hc
    rcases List.mem_append.mp hc with hfront | hrest
    · exact List.all_eq_true.mp List.all_takeWhile c hfront
    · exact h c hrest
  · intro h c hc
    exact h c (List.dropWhile_subset isBlank hc)

theorem isBlankText_iff {s : String} : isBlankText s = true ↔ AreBlanks s.toList :=
  List.all_eq_true

theorem trim_trim (cs : List Char) : trim (trim cs) = trim cs := by
  have hfront : (trim cs).dropWhile isBlank = trim cs := by
    rw [List.dropWhile_eq_self_iff]
    intro hlength
    have hlt := Nat.lt_of_lt_of_le hlength (List.rdropWhile_prefix isBlank _).length_le
    have hhead := List.IsPrefix.getElem (List.rdropWhile_prefix isBlank (cs.dropWhile isBlank))
      hlength
    have hnot := List.dropWhile_get_zero_not isBlank cs hlt
    rw [show (trim cs)[0] = (cs.dropWhile isBlank)[0] from hhead]
    exact hnot
  rw [trim_eq (trim cs), hfront]
  exact List.rdropWhile_idempotent isBlank _

theorem trimText_ofList_trim (cs : List Char) :
    trimText (String.ofList (trim cs)) = String.ofList (trim cs) := by
  rw [trimText, String.toList_ofList, trim_trim]

theorem isBlankText_ofList_trim {cs : List Char} :
    isBlankText (String.ofList (trim cs)) = true ↔ AreBlanks cs := by
  rw [isBlankText_iff, String.toList_ofList, ← trim_eq_nil, trim_trim, trim_eq_nil]

/-- A text is blanks, its trimmed text and blanks. -/
theorem exists_blanks (cs : List Char) :
    ∃ before after, AreBlanks before ∧ AreBlanks after ∧ cs = before ++ (trim cs ++ after) := by
  refine ⟨cs.takeWhile isBlank, (cs.dropWhile isBlank).rtakeWhile isBlank,
    List.all_eq_true.mp List.all_takeWhile, fun c hc => List.mem_rtakeWhile_imp hc, ?_⟩
  rw [trim_eq, List.rdropWhile_append_rtakeWhile, List.takeWhile_append_dropWhile]

/-- Blanks around a text do not count. -/
theorem trim_blanks {before after : List Char} (hbefore : AreBlanks before)
    (hafter : AreBlanks after) (cs : List Char) : trim (before ++ (cs ++ after)) = trim cs := by
  have hend : ∀ front : List Char,
      (front ++ after).rdropWhile isBlank = front.rdropWhile isBlank := by
    intro front
    rw [List.rdropWhile, List.reverse_append,
      List.dropWhile_append_of_pos fun c hc => hafter c (List.mem_reverse.mp hc)]
    rfl
  rw [trim_eq, trim_eq, List.dropWhile_append_of_pos hbefore, List.dropWhile_append]
  split
  next hnone =>
    rw [List.isEmpty_iff.mp hnone, List.dropWhile_eq_nil_iff.mpr hafter]
  · exact hend _

theorem trim_map {f : Char → Char} (hf : ∀ c, isBlank (f c) = isBlank c) (cs : List Char) :
    trim (cs.map f) = (trim cs).map f := by
  have hcomp : isBlank ∘ f = isBlank := funext hf
  rw [trim_eq, trim_eq, List.dropWhile_map, hcomp, List.rdropWhile, List.rdropWhile,
    ← List.map_reverse, List.dropWhile_map, hcomp, List.map_reverse]

/-! ## Pieces -/

theorem splitOn_eq_splitOnP (separates : Char → Bool) (cs : List Char) :
    splitOn separates cs = cs.splitOnP separates := by
  induction cs with
  | nil => rw [splitOn, List.splitOnP_nil]
  | cons c cs ih =>
      rw [splitOn, List.splitOnP_cons_eq_if_modifyHead, ih]
      cases hpieces : cs.splitOnP separates with
      | nil => exact absurd hpieces (List.splitOnP_ne_nil separates cs)
      | cons piece pieces => rfl

/-- What has no separators belongs to the first piece of what follows it. -/
theorem splitOn_prepend {separates : Char → Bool} {before : List Char}
    (h : ∀ c ∈ before, separates c = false) (cs : List Char) :
    ∃ piece pieces, splitOn separates cs = piece :: pieces ∧
      splitOn separates (before ++ cs) = (before ++ piece) :: pieces := by
  simp only [splitOn_eq_splitOnP]
  obtain ⟨piece, pieces, hpieces⟩ := List.exists_cons_of_ne_nil (List.splitOnP_ne_nil separates cs)
  refine ⟨piece, pieces, hpieces, ?_⟩
  induction before with
  | nil => exact hpieces
  | cons c before ih =>
      obtain ⟨hc, hrest⟩ := List.forall_mem_cons.mp h
      rw [List.cons_append, List.splitOnP_cons_eq_if_modifyHead, hc, ih hrest]
      rfl

/-- What has no separators belongs to the last piece of what comes before it. -/
theorem splitOn_append {separates : Char → Bool} {after : List Char}
    (h : ∀ c ∈ after, separates c = false) (cs : List Char) :
    ∃ pieces piece, splitOn separates cs = pieces ++ [piece] ∧
      splitOn separates (cs ++ after) = pieces ++ [piece ++ after] := by
  simp only [splitOn_eq_splitOnP]
  induction cs with
  | nil => exact ⟨[], [], List.splitOnP_nil, List.splitOnP_eq_singleton h⟩
  | cons c cs ih =>
      obtain ⟨pieces, piece, hpieces, hafter⟩ := ih
      rw [List.cons_append, List.splitOnP_cons_eq_if_modifyHead,
        List.splitOnP_cons_eq_if_modifyHead, hpieces, hafter]
      by_cases hc : separates c = true
      · exact ⟨[] :: pieces, piece, by rw [if_pos hc]; rfl, by rw [if_pos hc]; rfl⟩
      · rw [if_neg hc, if_neg hc]
        cases pieces with
        | nil => exact ⟨[], c :: piece, rfl, rfl⟩
        | cons first rest => exact ⟨(c :: first) :: rest, piece, rfl, rfl⟩

/-! ## Cuts -/

/-- A text with a mark is cut at the first one. -/
theorem cutAt?_append {test : Char → Bool} {before : List Char}
    (h : ∀ c ∈ before, test c = false) {mark : Char} (hmark : test mark = true) (after : List Char) :
    cutAt? test (before ++ mark :: after) = some (before, after) := by
  induction before with
  | nil => exact if_pos hmark
  | cons c before ih =>
      obtain ⟨hc, hrest⟩ := List.forall_mem_cons.mp h
      rw [List.cons_append, cutAt?, if_neg (by rw [hc]; exact Bool.false_ne_true), ih hrest]
      rfl

theorem of_cutAt? {test : Char → Bool} {cs before after : List Char}
    (h : cutAt? test cs = some (before, after)) :
    ∃ mark, test mark = true ∧ cs = before ++ mark :: after := by
  induction cs generalizing before with
  | nil => cases h
  | cons c cs ih =>
      rw [cutAt?] at h
      split at h
      next hc =>
        cases h
        exact ⟨c, hc, rfl⟩
      · obtain ⟨⟨before', after'⟩, hcut, heq⟩ := Option.map_eq_some_iff.mp h
        cases heq
        obtain ⟨mark, hmark, rfl⟩ := ih hcut
        exact ⟨mark, hmark, rfl⟩

end HomeClimate.Text
