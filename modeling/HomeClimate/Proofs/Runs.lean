import Mathlib.Data.List.ReduceOption

/-!
# Runs

Something that is called again and again becomes another thing at each call.  A call is
seen in the state in which it is made: `observed` is what is seen of all calls of a run,
and `gathered` is what comes of them, if something comes of some of them only.

A memory of one bit stands for something in the past.  Most often it is that something came
to be and that all since then has let it be (`HeldSince`).

Runs grow at their end, so for each of these there is one equation about one more call.
-/

namespace HomeClimate

variable {σ κ ο α : Type}

/-! ## What is seen -/

/-- What is seen of each call of a run, where a call is seen before it is made. -/
def observed (after : σ → κ → σ) (see : σ → κ → ο) : σ → List κ → List ο
  | _, [] => []
  | c, call :: calls => see c call :: observed after see (after c call) calls

theorem observed_append (after : σ → κ → σ) (see : σ → κ → ο) (c : σ) (calls later : List κ) :
    observed after see c (calls ++ later) =
      observed after see c calls ++ observed after see (calls.foldl after c) later := by
  induction calls generalizing c with
  | nil => rfl
  | cons call calls ih => simp [observed, ih]

/-- What comes of the calls of a run of which something comes. -/
def gathered (after : σ → κ → σ) (see : σ → κ → Option ο) (c : σ) (calls : List κ) : List ο :=
  (observed after see c calls).reduceOption

theorem gathered_append (after : σ → κ → σ) (see : σ → κ → Option ο) (c : σ)
    (calls later : List κ) :
    gathered after see c (calls ++ later) =
      gathered after see c calls ++ gathered after see (calls.foldl after c) later := by
  rw [gathered, observed_append, List.reduceOption_append]
  rfl

theorem gathered_concat (after : σ → κ → σ) (see : σ → κ → Option ο) (c : σ) (calls : List κ)
    (call : κ) :
    gathered after see c (calls ++ [call]) =
      gathered after see c calls ++ (see (calls.foldl after c) call).toList :=
  gathered_append after see c calls [call]

theorem filterMap_concat (f : κ → Option ο) (calls : List κ) (call : κ) :
    (calls ++ [call]).filterMap f = calls.filterMap f ++ (f call).toList := by
  rw [List.filterMap_append, List.filterMap_cons]
  cases f call <;> rfl

/-! ## What has held since -/

/-- At some place of a list something began, and everything after that let it last. -/
def HeldSince (begins : List α → α → Prop) (lasts : α → Prop) (l : List α) : Prop :=
  ∃ earlier x later, l = earlier ++ x :: later ∧ begins earlier x ∧ ∀ y ∈ later, lasts y

theorem not_heldSince_nil (begins : List α → α → Prop) (lasts : α → Prop) :
    ¬ HeldSince begins lasts [] := by
  rintro ⟨earlier, x, later, h, -⟩
  simp at h

/-- It began just now, or it has held and lasts. -/
theorem heldSince_concat {begins : List α → α → Prop} {lasts : α → Prop} (l : List α) (x : α) :
    HeldSince begins lasts (l ++ [x]) ↔ begins l x ∨ (HeldSince begins lasts l ∧ lasts x) := by
  constructor
  case mp =>
    rintro ⟨earlier, y, later, h, hy, hlater⟩
    rcases List.eq_nil_or_concat' later with rfl | ⟨middle, z, rfl⟩
    · obtain ⟨rfl, hxy⟩ := List.append_inj' h rfl
      rw [(List.cons.inj hxy).1]
      exact Or.inl hy
    · rw [← List.cons_append, ← List.append_assoc] at h
      obtain ⟨rfl, hxz⟩ := List.append_inj' h rfl
      rw [(List.cons.inj hxz).1]
      refine Or.inr ⟨⟨earlier, y, middle, rfl, hy, ?_⟩, hlater z (by simp)⟩
      intro v hv
      exact hlater v (List.mem_append_left [z] hv)
  case mpr =>
    rintro (hx | ⟨⟨earlier, y, later, rfl, hy, hlater⟩, hx⟩)
    · exact ⟨l, x, [], rfl, hx, by simp⟩
    · refine ⟨earlier, y, later ++ [x], by simp, hy, ?_⟩
      intro v hv
      rcases List.mem_append.mp hv with hv | hv
      · exact hlater v hv
      · rw [List.mem_singleton.mp hv]
        exact hx

end HomeClimate
