import Mathlib.Data.List.Forall2

/-!
# Outcomes

What a computation that may fail has done when it has not failed.  A sequence
that ends well is a first part that ended well and a rest that did; a loop that
ends well has a state after each of its rounds.  What a closed computation does can
be tested (`holds`), and a test that succeeds has an outcome to show.

Whether it ends well at all (`Succeeds`) is a matter of its parts: each of them must,
one after the other.
-/

namespace HomeClimate.Outcome

variable {ε α β σ : Type}

theorem of_bind_eq_ok {x : Except ε α} {f : α → Except ε β} {b : β} (h : (x >>= f) = .ok b) :
    ∃ a, x = .ok a ∧ f a = .ok b := by
  cases x with
  | error e => cases h
  | ok a => exact ⟨a, rfl, h⟩

/-- A sequence is what its rest is, if its first part ends well. -/
theorem bind_of_eq_ok {x : Except ε α} {f : α → Except ε β} {a : α} {y : Except ε β}
    (hx : x = .ok a) (hf : f a = y) : (x >>= f) = y := by
  rw [hx]
  exact hf

theorem of_bind_eq_error {x : Except ε α} {f : α → Except ε β} {e : ε} (h : (x >>= f) = .error e) :
    x = .error e ∨ ∃ a, x = .ok a ∧ f a = .error e := by
  cases x with
  | error e' =>
      cases h
      exact .inl rfl
  | ok a => exact .inr ⟨a, rfl, h⟩

theorem of_map_eq_ok {x : Except ε α} {f : α → β} {b : β} (h : x.map f = .ok b) :
    ∃ a, x = .ok a ∧ f a = b := by
  cases x with
  | error e => cases h
  | ok a => exact ⟨a, rfl, Except.ok.inj h⟩

theorem of_mapError_eq_ok {ε' : Type} {x : Except ε α} {f : ε → ε'} {a : α}
    (h : x.mapError f = .ok a) : x = .ok a := by
  cases x with
  | error e => cases h
  | ok a' =>
      cases h
      rfl

theorem of_map_eq_error {x : Except ε α} {f : α → β} {e : ε} (h : x.map f = .error e) :
    x = .error e := by
  cases x with
  | error e' =>
      cases h
      rfl
  | ok a => cases h

/-- What a loop starts with and no round takes away is there at the end. -/
theorem foldlM_invariant {P : σ → Prop} {f : σ → α → Except ε σ} {l : List α} {s s' : σ}
    (hstep : ∀ s s' a, a ∈ l → P s → f s a = .ok s' → P s') (h : l.foldlM f s = .ok s')
    (hs : P s) : P s' := by
  induction l generalizing s with
  | nil =>
      cases h
      exact hs
  | cons a l ih =>
      rw [List.foldlM_cons] at h
      obtain ⟨s₁, hs₁, hrest⟩ := of_bind_eq_ok h
      have hkeep := fun s s' b (hb : b ∈ l) => hstep s s' b (List.mem_cons_of_mem a hb)
      exact ih hkeep hrest (hstep s s₁ a List.mem_cons_self hs hs₁)

/-- What a list is mapped to, one by one. -/
theorem forall₂_of_mapM {f : α → Except ε β} {l : List α} {l' : List β}
    (h : l.mapM f = .ok l') : List.Forall₂ (fun a b => f a = .ok b) l l' := by
  induction l generalizing l' with
  | nil =>
      cases h
      exact .nil
  | cons a l ih =>
      rw [List.mapM_cons] at h
      obtain ⟨b, hb, h⟩ := of_bind_eq_ok h
      obtain ⟨l₁, hl₁, h⟩ := of_bind_eq_ok h
      cases h
      exact .cons hb (ih hl₁)

/-- The error of a list that is mapped is the error of one of its elements. -/
theorem exists_of_mapM_eq_error {f : α → Except ε β} {l : List α} {e : ε}
    (h : l.mapM f = .error e) : ∃ a ∈ l, f a = .error e := by
  induction l with
  | nil => cases h
  | cons a l ih =>
      rw [List.mapM_cons] at h
      rcases of_bind_eq_error h with ha | ⟨b, -, h⟩
      · exact ⟨a, List.mem_cons_self, ha⟩
      · rcases of_bind_eq_error h with hl | ⟨l', -, h⟩
        · obtain ⟨a', ha', he⟩ := ih hl
          exact ⟨a', List.mem_cons_of_mem a ha', he⟩
        · cases h

/-- What does as much for each element does as much for the list. -/
theorem mapM_eq_ok_of_imp {f g : α → Except ε β} {l : List α} {l' : List β}
    (hfg : ∀ a ∈ l, ∀ b, f a = .ok b → g a = .ok b) (h : l.mapM f = .ok l') :
    l.mapM g = .ok l' := by
  induction l generalizing l' with
  | nil => exact h
  | cons a l ih =>
      obtain ⟨ha, hl⟩ := List.forall_mem_cons.mp hfg
      rw [List.mapM_cons] at h ⊢
      obtain ⟨b, hb, h⟩ := of_bind_eq_ok h
      obtain ⟨l₁, hl₁, h⟩ := of_bind_eq_ok h
      rw [ha b hb, ih hl hl₁]
      exact h

theorem forall₂_of_optionMapM {f : α → Except ε β} {o : Option α} {o' : Option β}
    (h : o.mapM f = .ok o') : List.Forall₂ (fun a b => f a = .ok b) o.toList o'.toList := by
  cases o with
  | none =>
      cases h
      exact .nil
  | some a =>
      obtain ⟨b, hb, rfl⟩ := of_map_eq_ok h
      exact .cons hb .nil

theorem exists_of_mem_right {R : α → β → Prop} {l : List α} {l' : List β}
    (h : List.Forall₂ R l l') {b : β} (hb : b ∈ l') : ∃ a ∈ l, R a b := by
  induction h with
  | nil => cases hb
  | cons hab _ ih =>
      rcases List.mem_cons.mp hb with rfl | hb
      · exact ⟨_, List.mem_cons_self, hab⟩
      · obtain ⟨a, ha, hR⟩ := ih hb
        exact ⟨a, List.mem_cons_of_mem _ ha, hR⟩

theorem exists_of_mem_left {R : α → β → Prop} {l : List α} {l' : List β}
    (h : List.Forall₂ R l l') {a : α} (ha : a ∈ l) : ∃ b ∈ l', R a b := by
  induction h with
  | nil => cases ha
  | cons hab _ ih =>
      rcases List.mem_cons.mp ha with rfl | ha
      · exact ⟨_, List.mem_cons_self, hab⟩
      · obtain ⟨b, hb, hR⟩ := ih ha
        exact ⟨b, List.mem_cons_of_mem _ hb, hR⟩

/-- A list that is gone through without an error. -/
theorem forall_of_forM {f : α → Except ε Unit} {l : List α} (h : l.forM f = .ok ()) :
    ∀ a ∈ l, f a = .ok () := by
  induction l with
  | nil => exact fun a ha => nomatch ha
  | cons a l ih =>
      obtain ⟨_, ha, hrest⟩ := of_bind_eq_ok h
      exact List.forall_mem_cons.mpr ⟨ha, ih hrest⟩

/-! ## Success -/

/-- A computation that ends well. -/
def Succeeds (x : Except ε α) : Prop := ∃ a, x = .ok a

theorem succeeds_ok (a : α) : Succeeds (.ok a : Except ε α) := ⟨a, rfl⟩

theorem not_succeeds_error (e : ε) : ¬ Succeeds (.error e : Except ε α) := fun ⟨_, h⟩ => nomatch h

theorem isOk_iff_succeeds {x : Except ε α} : x.isOk = true ↔ Succeeds x := by
  cases x with
  | error e => exact iff_of_false Bool.false_ne_true (not_succeeds_error e)
  | ok a => exact iff_of_true rfl (succeeds_ok a)

instance (x : Except ε α) : Decidable (Succeeds x) := decidable_of_iff _ isOk_iff_succeeds

theorem succeeds_bind_iff {x : Except ε α} {f : α → Except ε β} :
    Succeeds (x >>= f) ↔ ∃ a, x = .ok a ∧ Succeeds (f a) := by
  constructor
  · rintro ⟨b, hb⟩
    obtain ⟨a, ha, hb⟩ := of_bind_eq_ok hb
    exact ⟨a, ha, b, hb⟩
  · rintro ⟨a, rfl, b, hb⟩
    exact ⟨b, hb⟩

theorem succeeds_map_iff {x : Except ε α} {f : α → β} : Succeeds (x.map f) ↔ Succeeds x := by
  cases x with
  | error e => exact iff_of_false (not_succeeds_error e) (not_succeeds_error e)
  | ok a => exact iff_of_true (succeeds_ok _) (succeeds_ok a)

theorem succeeds_mapError_iff {ε' : Type} {x : Except ε α} {f : ε → ε'} :
    Succeeds (x.mapError f) ↔ Succeeds x := by
  cases x with
  | error e => exact iff_of_false (not_succeeds_error _) (not_succeeds_error e)
  | ok a => exact iff_of_true (succeeds_ok a) (succeeds_ok a)

theorem succeeds_mapM {f : α → Except ε β} {l : List α} (h : ∀ a ∈ l, Succeeds (f a)) :
    Succeeds (l.mapM f) := by
  induction l with
  | nil => exact succeeds_ok []
  | cons a l ih =>
      obtain ⟨b, hb⟩ := h a List.mem_cons_self
      obtain ⟨l', hl'⟩ := ih fun a' ha' => h a' (List.mem_cons_of_mem a ha')
      rw [List.mapM_cons, hb]
      exact succeeds_bind_iff.mpr ⟨b, rfl, succeeds_bind_iff.mpr ⟨l', hl', succeeds_ok _⟩⟩

theorem succeeds_optionMapM {f : α → Except ε β} {o : Option α}
    (h : ∀ a, o = some a → Succeeds (f a)) : Succeeds (o.mapM f) := by
  cases o with
  | none => exact succeeds_ok none
  | some a =>
      obtain ⟨b, hb⟩ := h a rfl
      rw [Option.mapM_some, hb]
      exact succeeds_ok (some b)

/-- A loop whose rounds depend on no more than what they are about ends well if each of them does. -/
theorem succeeds_foldlM_iff {P : α → Prop} {f : σ → α → Except ε σ} {l : List α}
    (hround : ∀ s a, a ∈ l → (Succeeds (f s a) ↔ P a)) (s : σ) :
    Succeeds (l.foldlM f s) ↔ ∀ a ∈ l, P a := by
  induction l generalizing s with
  | nil => exact iff_of_true (succeeds_ok s) fun a ha => nomatch ha
  | cons a l ih =>
      have hrest := ih fun s' b hb => hround s' b (List.mem_cons_of_mem a hb)
      rw [List.foldlM_cons, succeeds_bind_iff, List.forall_mem_cons, ← hround s a List.mem_cons_self]
      constructor
      · rintro ⟨s', hs', hall⟩
        exact ⟨⟨s', hs'⟩, (hrest s').mp hall⟩
      · rintro ⟨⟨s', hs'⟩, hall⟩
        exact ⟨s', hs', (hrest s').mpr hall⟩

/-! ## Values -/

theorem toOption_eq_some_iff {x : Except ε α} {a : α} : x.toOption = some a ↔ x = .ok a := by
  cases x with
  | error e => exact iff_of_false (fun h => nomatch h) (fun h => nomatch h)
  | ok a' => exact ⟨fun h => congrArg Except.ok (Option.some.inj h), fun h => by rw [h]; rfl⟩

/-- What is made of a value is made of what it is known to be, and it is known to be something. -/
theorem map_some_eq_ok_iff {x : Except ε α} {value? : Option α}
    (h : ∀ a, x = .ok a ↔ value? = some a) (put : Option α → β) {b : β} :
    (x.map fun a => put (some a)) = .ok b ↔ value?.isSome = true ∧ b = put value? := by
  constructor
  · intro hb
    obtain ⟨a, ha, rfl⟩ := of_map_eq_ok hb
    rw [(h a).mp ha]
    exact ⟨rfl, rfl⟩
  · rintro ⟨hsome, rfl⟩
    obtain ⟨a, ha⟩ := Option.isSome_iff_exists.mp hsome
    rw [(h a).mpr ha, ha]
    rfl

/-! ## Evaluation -/

/-- Whether an outcome is a value that passes a test. -/
def holds (x : Except ε α) (test : α → Bool) : Bool :=
  match x with
  | .ok a => test a
  | .error _ => false

theorem exists_of_holds {x : Except ε α} {test : α → Bool} (h : holds x test = true) :
    ∃ a, x = .ok a ∧ test a = true := by
  cases x with
  | ok a => exact ⟨a, rfl, h⟩
  | error e => cases h

/-- Whether a computation fails with an error that passes a test. -/
def fails (x : Except ε α) (test : ε → Bool) : Bool :=
  match x with
  | .ok _ => false
  | .error e => test e

theorem exists_of_fails {x : Except ε α} {test : ε → Bool} (h : fails x test = true) :
    ∃ e, x = .error e ∧ test e = true := by
  cases x with
  | ok a => cases h
  | error e => exact ⟨e, rfl, h⟩

end HomeClimate.Outcome
