import HomeClimate.Table
import Mathlib.Data.List.Forall2
import Mathlib.Data.List.Nodup

/-!
# Tables by their lookups

What an operation does to a table, seen through `Table.get?`, and what it does to
the entries one by one.

The equations on `get?` hold of any list of entries, sorted or not, because
`insert` stops at the first key that is not below the new one.  That no key comes
twice is what `Sorted` is for: it starts with the empty table and `insert` keeps it.
-/

namespace HomeClimate.Table

variable {κ α β : Type}

/-! ## Finding -/

section Find

variable [BEq κ]

theorem get?_cons (k k' : κ) (v : α) (t : Table κ α) :
    Table.get? ((k', v) :: t) k = if k' == k then some v else Table.get? t k := by
  rw [Table.get?, List.find?_cons]
  cases k' == k with
  | true => simp
  | false => simp [Table.get?]

theorem get?_map (t : Table κ α) (f : α → β) (k : κ) :
    Table.get? (t.map fun e => (e.1, f e.2)) k = (t.get? k).map f := by
  induction t with
  | nil => rfl
  | cons e t ih =>
      rw [List.map_cons, get?_cons, get?_cons, ih]
      cases e.1 == k with
      | true => rfl
      | false => rfl

theorem get?_append (t t' : Table κ α) (k : κ) :
    Table.get? (t ++ t') k = (t.get? k).or (t'.get? k) := by
  rw [Table.get?, List.find?_append, Option.map_or]
  rfl

variable [LawfulBEq κ]

/-- Where all keys have one value, that is what is found under them. -/
theorem get?_map_const (ks : List κ) (v : α) (k : κ) :
    Table.get? (ks.map fun k => (k, v)) k = if ks.contains k then some v else none := by
  induction ks with
  | nil => rfl
  | cons k₀ ks ih =>
      rw [List.map_cons, get?_cons, ih, List.contains_cons]
      by_cases hk : k₀ = k
      · simp [hk]
      · simp [hk, Ne.symm hk]

theorem has_iff {t : Table κ α} {k : κ} : t.has k = true ↔ k ∈ t.keys := by
  rw [has, keys, List.any_eq_true, List.mem_map]
  simp only [beq_iff_eq]

/-- What is among the keys is found. -/
theorem exists_get? {t : Table κ α} {k : κ} (h : k ∈ t.keys) : ∃ v, t.get? k = some v := by
  obtain ⟨e, he, rfl⟩ := List.mem_map.mp h
  have hsome : (t.find? fun e' => e'.1 == e.1).isSome = true :=
    List.find?_isSome.mpr ⟨e, he, beq_self_eq_true _⟩
  obtain ⟨e', he'⟩ := Option.isSome_iff_exists.mp hsome
  exact ⟨e'.2, congrArg (Option.map Prod.snd) he'⟩

/-- What is found is an entry. -/
theorem mem_of_get? {t : Table κ α} {k : κ} {v : α} (h : t.get? k = some v) : (k, v) ∈ t := by
  obtain ⟨e, he, hv⟩ := Option.map_eq_some_iff.mp h
  have hk : e.1 = k := by simpa using List.find?_some he
  have hmem := List.mem_of_find?_eq_some he
  rw [← hk, ← hv]
  exact hmem

theorem get?_modify (t : Table κ α) (k k' : κ) (f : α → α) :
    (t.modify k f).get? k' = if k == k' then (t.get? k').map f else t.get? k' := by
  induction t with
  | nil => simp [modify, Table.get?]
  | cons e t ih =>
      obtain ⟨k₀, v₀⟩ := e
      have hcons : Table.modify ((k₀, v₀) :: t) k f =
          (k₀, if k₀ == k then f v₀ else v₀) :: Table.modify t k f := by
        by_cases hk : k₀ = k <;> simp [modify, hk]
      rw [hcons, get?_cons, get?_cons, ih]
      by_cases hk' : k₀ = k'
      · subst hk'
        by_cases hk : k = k₀
        · simp [hk]
        · simp [hk, Ne.symm hk]
      · simp [hk']

theorem get?_erase (t : Table κ α) (k k' : κ) :
    (t.erase k).get? k' = if k == k' then none else t.get? k' := by
  induction t with
  | nil => simp [Table.erase, Table.get?]
  | cons e t ih =>
      obtain ⟨k₀, v₀⟩ := e
      by_cases hk : k₀ = k
      · have hcons : Table.erase ((k₀, v₀) :: t) k = Table.erase t k := by simp [Table.erase, hk]
        rw [hcons, ih, get?_cons, hk]
        by_cases hk' : k = k' <;> simp [hk']
      · have hcons : Table.erase ((k₀, v₀) :: t) k = (k₀, v₀) :: Table.erase t k := by
          simp [Table.erase, hk]
        rw [hcons, get?_cons, get?_cons, ih]
        by_cases hk' : k₀ = k'
        · subst hk'
          simp [Ne.symm hk]
        · simp [hk']

/-- The entries after a change under one key hold what the old ones held, the changed one apart. -/
theorem forall_modify {P : κ → α → Prop} {t : Table κ α} {k : κ} {f : α → α}
    (ht : ∀ e ∈ t, e.1 ≠ k → P e.1 e.2) (hf : ∀ v, (k, v) ∈ t → P k (f v)) :
    ∀ e ∈ t.modify k f, P e.1 e.2 := by
  intro e he
  obtain ⟨e₀, he₀, rfl⟩ := List.mem_map.mp he
  by_cases h : e₀.1 = k
  · subst h
    simpa using hf e₀.2 he₀
  · rw [if_neg (by simpa using h)]
    exact ht e₀ he₀ h

/-- Nothing is erased under a key that is not found. -/
theorem erase_of_get?_eq_none {t : Table κ α} {k : κ} (h : t.get? k = none) : t.erase k = t := by
  have hnone : ∀ e ∈ t, ¬ (e.1 == k) = true :=
    List.find?_eq_none.mp (Option.map_eq_none_iff.mp h)
  exact List.filter_eq_self.mpr fun e he => by simpa using hnone e he

/-- The values under a key are all the same. -/
def IsSingle (t : Table κ α) (k : κ) : Prop := ∀ v v', (k, v) ∈ t → (k, v') ∈ t → v = v'

/-- To put one value wherever a key stands makes the values under that key the same, and keeps them
so under the others. -/
theorem isSingle_modify {t : Table κ α} {k k' : κ} (v : α) (h : k ≠ k' → t.IsSingle k') :
    IsSingle (t.modify k fun _ => v) k' := by
  intro w w' hw hw'
  by_cases hk : k = k'
  · subst hk
    have hput : ∀ e ∈ t.modify k fun _ => v, e.1 = k → e.2 = v :=
      forall_modify (P := fun k₀ w => k₀ = k → w = v) (fun _ _ hne heq => absurd heq hne)
        fun _ _ _ => rfl
    exact (hput _ hw rfl).trans (hput _ hw' rfl).symm
  · have hkept : ∀ e ∈ t.modify k fun _ => v, e.1 = k' → e ∈ t :=
      forall_modify (P := fun k₀ w => k₀ = k' → (k₀, w) ∈ t) (fun _ he _ _ => he)
        fun _ _ heq => absurd heq hk
    exact h hk w w' (hkept _ hw rfl) (hkept _ hw' rfl)

/-- To put a value where it stands already changes nothing. -/
theorem modify_of_get? {t : Table κ α} {k : κ} {v : α} (h : t.IsSingle k)
    (hv : t.get? k = some v) : (t.modify k fun _ => v) = t := by
  refine (List.map_congr_left fun e he => ?_).trans (List.map_id t)
  by_cases hk : e.1 = k
  · subst hk
    rw [if_pos (beq_self_eq_true _), h v e.2 (mem_of_get? hv) he]
    rfl
  · rw [if_neg (by simpa using hk)]
    rfl

/-- Where no key comes twice, a change under a key is a change of one entry. -/
theorem modify_middle {before after : Table κ α} {k : κ} {v : α}
    (h : (keys (before ++ (k, v) :: after)).Nodup) (f : α → α) :
    Table.modify (before ++ (k, v) :: after) k f = before ++ (k, f v) :: after := by
  rw [keys, List.map_append, List.map_cons, List.nodup_append, List.nodup_cons] at h
  obtain ⟨-, ⟨hafter, -⟩, hbefore⟩ := h
  have hkept : ∀ t : Table κ α, k ∉ t.keys → t.modify k f = t := by
    intro t ht
    refine (List.map_congr_left fun e he => ?_).trans (List.map_id t)
    have hne : e.1 ≠ k := fun heq => ht (heq ▸ List.mem_map.mpr ⟨e, he, rfl⟩)
    rw [if_neg (by simpa using hne)]
    rfl
  have happend : Table.modify (before ++ (k, v) :: after) k f =
      Table.modify before k f ++ Table.modify ((k, v) :: after) k f := List.map_append
  have hcons : Table.modify ((k, v) :: after) k f = (k, f v) :: Table.modify after k f := by
    simp [modify]
  rw [happend, hcons, hkept after hafter,
    hkept before fun hmem => hbefore _ hmem _ List.mem_cons_self rfl]

/-- What is erased without loss is what counts for nothing. -/
theorem filterMap_values_erase {f : α → Option β} {t : Table κ α} {k : κ}
    (h : ∀ e ∈ t, e.1 = k → f e.2 = none) :
    (t.erase k).values.filterMap f = t.values.filterMap f := by
  induction t with
  | nil => rfl
  | cons e t ih =>
      obtain ⟨hhead, htail⟩ := List.forall_mem_cons.mp h
      have hrest := ih htail
      by_cases hk : e.1 = k
      · have herase : Table.erase (e :: t) k = Table.erase t k := by simp [Table.erase, hk]
        rw [herase, hrest]
        exact (List.filterMap_cons_none (hhead hk)).symm
      · have herase : Table.erase (e :: t) k = e :: Table.erase t k := by simp [Table.erase, hk]
        rw [herase]
        change List.filterMap f (e.2 :: Table.values (Table.erase t k))
          = List.filterMap f (e.2 :: Table.values t)
        rw [List.filterMap_cons, List.filterMap_cons, hrest]

/-- Where entries are left out by their keys, those of the other keys are found. -/
theorem get?_filter (t : Table κ α) (p : κ → Bool) (k : κ) :
    Table.get? (t.filter fun e => p e.1) k = if p k then t.get? k else none := by
  induction t with
  | nil => simp [Table.get?]
  | cons e t ih =>
      obtain ⟨k₀, v₀⟩ := e
      rw [List.filter_cons, get?_cons]
      cases hp : p k₀ with
      | true =>
          by_cases hk : k₀ = k
          · subst hk
            simp [get?_cons, hp]
          · simp [get?_cons, ih, hk]
      | false =>
          by_cases hk : k₀ = k
          · subst hk
            simp [ih, hp]
          · simp [ih, hk]

theorem get?_eq_none {t : Table κ α} {k : κ} (h : k ∉ t.keys) : t.get? k = none := by
  by_contra hsome
  obtain ⟨v, hv⟩ := Option.ne_none_iff_exists'.mp hsome
  exact h (List.mem_map_of_mem (mem_of_get? hv))

end Find

/-! ## Inserting -/

section Insert

variable [Ord κ] [Std.LawfulEqOrd κ]

theorem get?_insert [BEq κ] [LawfulBEq κ] (t : Table κ α) (k k' : κ) (v : α) :
    (t.insert k v).get? k' = if k == k' then some v else t.get? k' := by
  induction t with
  | nil => rw [Table.insert, get?_cons]
  | cons e t ih =>
      obtain ⟨k₀, v₀⟩ := e
      rw [Table.insert]
      cases hc : compare k k₀ with
      | lt => exact get?_cons k' k v _
      | eq =>
          have hk : k = k₀ := Std.LawfulEqOrd.eq_of_compare hc
          subst hk
          simp only [get?_cons]
          cases k == k' <;> rfl
      | gt =>
          have hk : k ≠ k₀ := by
            rintro rfl
            rw [Std.LawfulEqOrd.compare_eq_iff_eq.mpr rfl] at hc
            cases hc
          simp only [get?_cons, ih]
          by_cases h : k₀ = k'
          · subst h; simp [hk]
          · simp [h]

/-- Of entries that were inserted, the new ones count. -/
theorem get?_insertAll [BEq κ] [LawfulBEq κ] {entries : Table κ α} (h : entries.keys.Nodup)
    (t : Table κ α) (k : κ) : (t.insertAll entries).get? k = (entries.get? k).or (t.get? k) := by
  induction entries generalizing t with
  | nil => rfl
  | cons e rest ih =>
      obtain ⟨k₀, v₀⟩ := e
      obtain ⟨hnew, hrest⟩ := List.nodup_cons.mp h
      have hstep : t.insertAll ((k₀, v₀) :: rest) = Table.insertAll (t.insert k₀ v₀) rest := rfl
      rw [hstep, ih hrest, get?_insert, get?_cons]
      by_cases hk : k₀ = k
      · subst hk
        simp [get?_eq_none hnew]
      · simp [hk]

/-- The entries after an insertion are old ones or the new one. -/
theorem forall_insert {P : κ → α → Prop} {t : Table κ α} {k : κ} {v : α}
    (ht : ∀ e ∈ t, P e.1 e.2) (hv : P k v) : ∀ e ∈ t.insert k v, P e.1 e.2 := by
  induction t with
  | nil => simpa [Table.insert] using hv
  | cons e t ih =>
      obtain ⟨k₀, v₀⟩ := e
      have hcons := List.forall_mem_cons.mp ht
      rw [Table.insert]
      cases hc : compare k k₀ with
      | lt => exact List.forall_mem_cons.mpr ⟨hv, ht⟩
      | eq =>
          have hk : k = k₀ := Std.LawfulEqOrd.eq_of_compare hc
          subst hk
          exact List.forall_mem_cons.mpr ⟨hv, hcons.2⟩
      | gt => exact List.forall_mem_cons.mpr ⟨hcons.1, ih hcons.2⟩

/-- The keys after an insertion are the old ones and the new one. -/
theorem mem_keys_insert {t : Table κ α} {k k' : κ} {v : α} :
    k' ∈ (t.insert k v).keys ↔ k' = k ∨ k' ∈ t.keys := by
  induction t with
  | nil => exact List.mem_cons
  | cons e t ih =>
      obtain ⟨k₀, v₀⟩ := e
      rw [Table.insert]
      cases hc : compare k k₀ with
      | lt => exact List.mem_cons
      | eq =>
          have hk : k = k₀ := Std.LawfulEqOrd.eq_of_compare hc
          subst hk
          exact ⟨.inr, fun h => h.elim (fun heq => heq ▸ List.mem_cons_self) id⟩
      | gt =>
          have hrest : k' ∈ Table.keys ((k₀, v₀) :: Table.insert k v t)
              ↔ k' = k₀ ∨ k' ∈ (Table.insert k v t).keys := List.mem_cons
          have hcons : k' ∈ Table.keys ((k₀, v₀) :: t) ↔ k' = k₀ ∨ k' ∈ Table.keys t :=
            List.mem_cons
          rw [hrest, hcons, ih]
          exact or_left_comm

end Insert

/-! ## Order -/

section Order

variable [Ord κ]

/-- The keys are in ascending order, and none comes twice. -/
def Sorted (t : Table κ α) : Prop := t.Pairwise fun a b => compare a.1 b.1 = .lt

theorem sorted_nil : Sorted ([] : Table κ α) := List.Pairwise.nil

/-- A sorted table has no key twice. -/
theorem Sorted.nodup [Std.LawfulEqOrd κ] {t : Table κ α} (h : t.Sorted) : t.keys.Nodup := by
  rw [Table.keys, List.Nodup, List.pairwise_map]
  refine h.imp fun {a b} hab heq => ?_
  rw [heq, Std.LawfulEqOrd.compare_eq_iff_eq.mpr rfl] at hab
  cases hab

/-- The keys after an insertion are old ones or the new one, also if equal ones can be told apart. -/
theorem forall_keys_insert {P : κ → Prop} {t : Table κ α} {k : κ} {v : α}
    (ht : ∀ e ∈ t, P e.1) (hk : P k) : ∀ e ∈ t.insert k v, P e.1 := by
  induction t with
  | nil => simpa [Table.insert] using hk
  | cons e t ih =>
      obtain ⟨k₀, v₀⟩ := e
      obtain ⟨hhead, htail⟩ := List.forall_mem_cons.mp ht
      rw [Table.insert]
      cases compare k k₀ with
      | lt => exact List.forall_mem_cons.mpr ⟨hk, ht⟩
      | eq => exact List.forall_mem_cons.mpr ⟨hhead, htail⟩
      | gt => exact List.forall_mem_cons.mpr ⟨hhead, ih htail⟩

theorem forall_keys_insertAll {P : κ → Prop} {t : Table κ α} {entries : List (κ × α)}
    (ht : ∀ e ∈ t, P e.1) (hentries : ∀ e ∈ entries, P e.1) : ∀ e ∈ t.insertAll entries, P e.1 := by
  induction entries generalizing t with
  | nil => exact ht
  | cons e rest ih =>
      obtain ⟨hhead, htail⟩ := List.forall_mem_cons.mp hentries
      exact ih (forall_keys_insert ht hhead) htail

variable [Std.TransOrd κ]

theorem sorted_insert {t : Table κ α} (h : t.Sorted) (k : κ) (v : α) : (t.insert k v).Sorted := by
  induction t with
  | nil => exact List.pairwise_singleton _ _
  | cons e t ih =>
      obtain ⟨k₀, v₀⟩ := e
      obtain ⟨hhead, htail⟩ := List.pairwise_cons.mp h
      rw [Table.insert]
      cases hc : compare k k₀ with
      | lt =>
          refine List.pairwise_cons.mpr ⟨?_, h⟩
          intro e he
          rcases List.mem_cons.mp he with rfl | he
          · exact hc
          · exact Std.TransCmp.lt_trans hc (hhead e he)
      | eq => exact List.pairwise_cons.mpr ⟨hhead, htail⟩
      | gt =>
          have hk : compare k₀ k = .lt := Std.OrientedCmp.lt_of_gt hc
          refine List.pairwise_cons.mpr ⟨?_, ih htail⟩
          exact forall_keys_insert (P := fun k => compare k₀ k = .lt) hhead hk

theorem sorted_insertAll {t : Table κ α} (h : t.Sorted) (entries : List (κ × α)) :
    (t.insertAll entries).Sorted := by
  induction entries generalizing t with
  | nil => exact h
  | cons e rest ih => exact ih (sorted_insert h e.1 e.2)

theorem sorted_ofList (entries : List (κ × α)) : (ofList entries).Sorted :=
  sorted_insertAll sorted_nil entries

/-- No two different keys of a sorted table are equal in the order. -/
theorem Sorted.eq_of_compare {t : Table κ α} (h : t.Sorted) {k k' : κ} (hk : k ∈ t.keys)
    (hk' : k' ∈ t.keys) (heq : compare k k' = .eq) : k = k' := by
  have hkeys : t.keys.Pairwise fun a b => compare a b = .lt := List.pairwise_map.mpr h
  refine List.Pairwise.forall_of_forall_of_flip (R := fun a b => compare a b = .eq → a = b)
    (fun _ _ _ => rfl) (hkeys.imp fun hlt heq => ?_) (hkeys.imp fun hlt heq => ?_) hk hk' heq
  · rw [hlt] at heq
    cases heq
  · rw [Std.OrientedCmp.gt_of_lt hlt] at heq
    cases heq

/-- An insertion loses no key, and the new one or one that equals it in the order is there. -/
theorem keys_insert (t : Table κ α) (k : κ) (v : α) :
    (∀ k' ∈ t.keys, k' ∈ (t.insert k v).keys) ∧
      ∃ k' ∈ (t.insert k v).keys, compare k k' = .eq := by
  induction t with
  | nil =>
      exact ⟨fun k' hk' => (nomatch hk'), k, List.mem_singleton_self k, Std.ReflCmp.compare_self⟩
  | cons e t ih =>
      obtain ⟨k₀, v₀⟩ := e
      rw [Table.insert]
      cases hc : compare k k₀ with
      | lt =>
          exact ⟨fun k' hk' => List.mem_cons_of_mem k hk', k, List.mem_cons_self,
            Std.ReflCmp.compare_self⟩
      | eq => exact ⟨fun k' hk' => hk', k₀, List.mem_cons_self, hc⟩
      | gt =>
          obtain ⟨hold, k', hk', heq⟩ := ih
          refine ⟨fun k'' hk'' => ?_, k', List.mem_cons_of_mem k₀ hk', heq⟩
          rcases List.mem_cons.mp hk'' with rfl | hrest
          · exact List.mem_cons_self
          · exact List.mem_cons_of_mem k₀ (hold k'' hrest)

theorem keys_insertAll (t : Table κ α) (entries : List (κ × α)) :
    (∀ k ∈ t.keys, k ∈ (t.insertAll entries).keys) ∧
      ∀ e ∈ entries, ∃ k ∈ (t.insertAll entries).keys, compare e.1 k = .eq := by
  induction entries generalizing t with
  | nil => exact ⟨fun k hk => hk, fun e he => nomatch he⟩
  | cons e rest ih =>
      obtain ⟨hold, k, hk, heq⟩ := keys_insert t e.1 e.2
      obtain ⟨hkept, hplaced⟩ := ih (t.insert e.1 e.2)
      refine ⟨fun k' hk' => hkept k' (hold k' hk'), List.forall_mem_cons.mpr ⟨?_, hplaced⟩⟩
      exact ⟨k, hkept k hk, heq⟩

/-- The keys of some entries are all kept exactly if no two different ones are equal in the order. -/
theorem forall_mem_keys_ofList_iff {entries : List (κ × α)} :
    (∀ e ∈ entries, e.1 ∈ (ofList entries).keys) ↔
      ∀ e ∈ entries, ∀ e' ∈ entries, compare e.1 e'.1 = .eq → e.1 = e'.1 := by
  constructor
  · intro hkept e he e' he' heq
    exact (sorted_ofList entries).eq_of_compare (hkept e he) (hkept e' he') heq
  · intro hapart e he
    obtain ⟨k, hk, heq⟩ := (keys_insertAll [] entries).2 e he
    obtain ⟨e₀, he₀, rfl⟩ := List.mem_map.mp hk
    obtain ⟨e', he', hsame⟩ := forall_keys_insertAll (t := [])
      (P := fun k => ∃ e' ∈ entries, e'.1 = k)
      (fun e he => nomatch he) (fun e he => ⟨e, he, rfl⟩) e₀ he₀
    have hkey : e.1 = e₀.1 := (hapart e he e' he' (hsame ▸ heq)).trans hsame
    exact hkey ▸ hk

end Order

/-! ## Keys that come once -/

/-- Where no key comes twice, every entry is found. -/
theorem get?_of_mem [BEq κ] [LawfulBEq κ] {t : Table κ α} (h : t.keys.Nodup) {k : κ} {v : α}
    (hmem : (k, v) ∈ t) : t.get? k = some v := by
  induction t with
  | nil => cases hmem
  | cons e t ih =>
      obtain ⟨k₀, v₀⟩ := e
      obtain ⟨hhead, htail⟩ := List.nodup_cons.mp h
      rw [get?_cons]
      rcases List.mem_cons.mp hmem with heq | hmem
      · cases heq
        rw [if_pos (beq_self_eq_true k)]
      · have hne : k₀ ≠ k := by
          rintro rfl
          exact hhead (List.mem_map.mpr ⟨_, hmem, rfl⟩)
        rw [if_neg (by simpa using hne)]
        exact ih htail hmem

/-- Looked up one by one, the values of a table are found, and nothing else. -/
theorem perm_values [BEq κ] [LawfulBEq κ] {t : Table κ α} (ht : t.keys.Nodup) {ks : List κ}
    (hks : ks.Nodup) (hsub : t.keys ⊆ ks) : (ks.filterMap t.get?).Perm t.values := by
  -- Equal values may stand under different keys, so the entries are compared.
  have hentries : (ks.filterMap fun k => (t.get? k).map (Prod.mk k)).Perm t := by
    have hfound : (ks.filterMap fun k => (t.get? k).map (Prod.mk k)).Nodup := by
      refine List.Nodup.filterMap (fun k k' e he he' => ?_) hks
      obtain ⟨v, -, rfl⟩ := Option.map_eq_some_iff.mp he
      obtain ⟨v', -, heq⟩ := Option.map_eq_some_iff.mp he'
      exact (congrArg Prod.fst heq).symm
    rw [List.perm_ext_iff_of_nodup hfound (List.Nodup.of_map Prod.fst ht)]
    intro ⟨k, v⟩
    simp only [List.mem_filterMap, Option.map_eq_some_iff, Prod.mk.injEq]
    constructor
    · rintro ⟨k, -, v, hv, rfl, rfl⟩
      exact mem_of_get? hv
    · intro hmem
      exact ⟨k, hsub (List.mem_map_of_mem hmem), v, get?_of_mem ht hmem, rfl, rfl⟩
  have hvalues := hentries.map Prod.snd
  rw [List.map_filterMap] at hvalues
  simpa [Function.comp_def, Table.values] using hvalues

/-- Two tables with the same lookups are the same. -/
theorem eq_of_get? [BEq κ] [LawfulBEq κ] [Ord κ] [Std.LawfulEqOrd κ] [Std.OrientedOrd κ]
    {t t' : Table κ α} (h : t.Sorted) (h' : t'.Sorted) (hget : ∀ k, t.get? k = t'.get? k) :
    t = t' := by
  have hmem : ∀ e, e ∈ t ↔ e ∈ t' := by
    rintro ⟨k, v⟩
    constructor
    · intro he
      exact mem_of_get? (hget k ▸ get?_of_mem h.nodup he)
    · intro he
      exact mem_of_get? (hget k ▸ get?_of_mem h'.nodup he)
  have hperm : t.Perm t' :=
    (List.perm_ext_iff_of_nodup (.of_map Prod.fst h.nodup) (.of_map Prod.fst h'.nodup)).mpr hmem
  refine hperm.eq_of_pairwise (fun a b _ _ hlt hgt => ?_) h h'
  rw [Std.OrientedCmp.gt_of_lt hlt] at hgt
  cases hgt

/-! ## Side by side -/

/-- Two tables have the same keys in the same order, with related values under them. -/
def Related (R : α → β → Prop) (t : Table κ α) (t' : Table κ β) : Prop :=
  List.Forall₂ (fun e e' => e.1 = e'.1 ∧ R e.2 e'.2) t t'

namespace Related

variable {γ : Type} {R : α → β → Prop} {t : Table κ α} {t' : Table κ β}

theorem keys (h : Related R t t') : t'.keys = t.keys := by
  induction h with
  | nil => rfl
  | cons he _ ih => exact congrArg₂ List.cons he.1.symm ih

theorem trans {S : β → γ → Prop} {T : α → γ → Prop} {t'' : Table κ γ}
    (htrans : ∀ a b c, R a b → S b c → T a c) (h : Related R t t') (h' : Related S t' t'') :
    Related T t t'' := by
  induction h generalizing t'' with
  | nil =>
      cases h'
      exact .nil
  | cons he _ ih =>
      cases h' with
      | cons he' hrest => exact .cons ⟨he.1.trans he'.1, htrans _ _ _ he.2 he'.2⟩ (ih hrest)

/-- What is known of all values on one side, as far as it can be told on the other. -/
theorem forall_values {P : α → Prop} {Q : β → Prop} (hPQ : ∀ a b, R a b → P a → Q b)
    (h : Related R t t') (ht : ∀ e ∈ t, P e.2) : ∀ e ∈ t', Q e.2 := by
  induction h with
  | nil => exact fun e he => nomatch he
  | cons he _ ih =>
      obtain ⟨hhead, htail⟩ := List.forall_mem_cons.mp ht
      exact List.forall_mem_cons.mpr ⟨hPQ _ _ he.2 hhead, ih htail⟩

theorem get? [BEq κ] (h : Related R t t') (k : κ) : Option.Rel R (t.get? k) (t'.get? k) := by
  induction h with
  | nil => exact .none
  | @cons e e' _ _ he _ ih =>
      rw [get?_cons, get?_cons, ← he.1]
      cases e.1 == k with
      | true => exact .some he.2
      | false => exact ih

theorem of_map {f : κ × α → β} (h : ∀ e ∈ t, R e.2 (f e)) :
    Related R t (t.map fun e => (e.1, f e)) := by
  induction t with
  | nil => exact .nil
  | cons e t ih =>
      obtain ⟨hhead, htail⟩ := List.forall_mem_cons.mp h
      exact .cons ⟨rfl, hhead⟩ (ih htail)

theorem of_modify [BEq κ] {R : α → α → Prop} (hrefl : ∀ a, R a a) {f : α → α}
    (hf : ∀ a, R a (f a)) (t : Table κ α) (k : κ) : Related R t (t.modify k f) := by
  induction t with
  | nil => exact .nil
  | cons e t ih =>
      refine .cons ?_ ih
      dsimp only
      split
      · exact ⟨rfl, hf e.2⟩
      · exact ⟨rfl, hrefl e.2⟩

end Related

end HomeClimate.Table
