import HomeClimate.Proofs.Document.JsonRereads

/-!
# Values that are kept

A value is *kept* if a reader finds it again when its document was written and read
(`Document.Keeps`).  Texts, truth values and whole numbers are kept, lists of what is
kept, and a double if its number is read as it was written.

A record is written without the fields that have no value.  As its names differ, a
reader that asks for a field gets the one that was given (`Document.given`), or learns
that there was none.
-/

namespace HomeClimate.Document

variable {α : Type}

/-! ## Values -/

/-- A document with a type of its own. -/
def IsTyped : Document → Prop
  | .null => False
  | .plain _ => False
  | .tagged _ _ _ => False
  | _ => True

theorem asOptional_of_isTyped {read : Document → Option α} {d : Document} (h : d.IsTyped) :
    asOptional read d = (read d).map some := by
  cases d with
  | null => cases h
  | plain => cases h
  | tagged => cases h
  | _ => rfl

/-- A value that is found in its document when it was written and read again. -/
def Keeps (read : Document → Option α) (d : Document) (a : α) : Prop :=
  ∃ d', Json.Rereads d d' ∧ d'.IsTyped ∧ read d' = some a

theorem keeps_text (s : String) : Keeps asText? (.text s) s :=
  ⟨.text s, Json.rereads_text s, trivial, rfl⟩

theorem keeps_bool (b : Bool) : Keeps asBool? (.bool b) b :=
  ⟨.bool b, Json.rereads_bool b, trivial, rfl⟩

theorem keeps_natural {bits n : Nat} (hbits : bits ≤ 64) (hn : n < twoTo bits) :
    Keeps (asNatural? bits) (.ofNatural n) n := by
  have hle : twoTo bits ≤ twoTo 64 := Nat.pow_le_pow_right (by decide) hbits
  have hfits : Json.fits64 (n : Int) = true := by
    have hlow : leastSigned 64 ≤ 0 := by decide
    have hhigh : (n : Int) ≤ greatestNatural 64 := by
      rw [greatestNatural]
      omega
    simp only [Json.fits64, Bool.and_eq_true, decide_eq_true_eq]
    omega
  have hwithin : within? 0 (greatestNatural bits) (n : Int) = some (n : Int) :=
    if_pos ⟨by omega, by rw [greatestNatural]; omega⟩
  have hread : asNatural? bits (.ofNatural n) =
      (within? 0 (greatestNatural bits) (n : Int)).map Int.toNat := rfl
  refine ⟨.ofNatural n, Json.rereads_integer hfits, trivial, ?_⟩
  rw [hread, hwithin]
  rfl

theorem keeps_integer32 {n : Int} (hn : fitsSigned 32 n = true) :
    Keeps asInteger32? (.number (.integer n)) n := by
  simp only [fitsSigned, Bool.and_eq_true, decide_eq_true_eq] at hn
  have hfits : Json.fits64 n = true := by
    have hlow : leastSigned 64 ≤ leastSigned 32 := by decide
    have hhigh : greatestSigned 32 ≤ greatestNatural 64 := by decide
    simp only [Json.fits64, Bool.and_eq_true, decide_eq_true_eq]
    omega
  have hwithin : within? (leastSigned 32) (greatestSigned 32) n = some n := if_pos hn
  exact ⟨.number (.integer n), Json.rereads_integer hfits, trivial, hwithin⟩

/-- A double whose number is read as it was written. -/
def RereadsDouble (x : Float) : Prop :=
  (Json.read? (Json.pretty 0 (.ofDouble x))).bind asDouble? = some x

instance (x : Float) : Decidable (RereadsDouble x) := inferInstanceAs (Decidable (_ = _))

/-- A double that is found again. -/
def KeepsDouble (x : Float) : Prop := Keeps asDouble? (.ofDouble x) x

theorem RereadsDouble.keeps {x : Float} (h : RereadsDouble x) : KeepsDouble x := by
  obtain ⟨d, hread, hd⟩ := Option.bind_eq_some_iff.mp h
  obtain ⟨n, hreads, hn⟩ := Json.reads_of_double hread hd
  have hlevel : ∀ level, Json.pretty level (.ofDouble x) = Json.pretty 0 (.ofDouble x) := by
    intro level
    rw [ofDouble]
    split <;> rw [Json.pretty, Json.pretty]
  refine ⟨.number n, fun level => ?_, trivial, hn⟩
  rw [hlevel]
  exact hreads

theorem keeps_list {read : Document → Option α} {document : α → Document} (as : List α)
    (h : ∀ a ∈ as, Keeps read (document a) a) :
    Keeps (asList? read) (.list (as.map document)) as := by
  suffices hdocs : ∃ docs, List.Forall₂ Json.Rereads (as.map document) docs ∧
      docs.mapM read = some as by
    obtain ⟨docs, hrereads, hread⟩ := hdocs
    exact ⟨.list docs, Json.rereads_list hrereads, trivial, hread⟩
  induction as with
  | nil => exact ⟨[], .nil, rfl⟩
  | cons a as ih =>
      obtain ⟨⟨d, hd, -, hread⟩, hrest⟩ := List.forall_mem_cons.mp h
      obtain ⟨docs, hdocs, hreads⟩ := ih hrest
      refine ⟨d :: docs, .cons hd hdocs, ?_⟩
      rw [List.mapM_cons, hread, hreads]
      rfl

/-- A value that may be absent, and that is found among fields if it was given. -/
def KeepsOptional (read : Document → Option α) (d : Option Document) (a : Option α) : Prop :=
  ∃ d', Option.Rel Json.Rereads d d' ∧
    ∀ (f : Fields) (name : String), f.find? name = d' → f.optional? name read = some a

theorem keepsOptional {read : Document → Option α} {document : α → Document} {a : Option α}
    (h : ∀ x ∈ a, Keeps read (document x) x) : KeepsOptional read (a.map document) a := by
  cases a with
  | none =>
      refine ⟨none, .none, fun f name hfind => ?_⟩
      rw [Fields.optional?, Fields.defaulted?, hfind]
  | some x =>
      obtain ⟨d, hd, htyped, hread⟩ := h x rfl
      refine ⟨some d, .some hd, fun f name hfind => ?_⟩
      rw [Fields.optional?, Fields.defaulted?, hfind]
      exact (asOptional_of_isTyped htyped).trans (by rw [hread]; rfl)

/-! ## Records -/

/-- The fields of a record that have a value. -/
def given (fields : List (String × Option Document)) : Fields :=
  ⟨fields.filterMap fun f => f.2.map fun d => (f.1, d), false⟩

@[simp] theorem find?_given_nil (name : String) : (given []).find? name = none := rfl

@[simp] theorem find?_given_cons (f : String × Option Document)
    (fields : List (String × Option Document)) (name : String) :
    (given (f :: fields)).find? name =
      if f.1 = name then f.2.or ((given fields).find? name) else (given fields).find? name := by
  obtain ⟨name', d⟩ := f
  cases d with
  | none => simp [given, Fields.find?]
  | some d =>
      by_cases h : name' = name <;> simp [given, Fields.find?, h]

theorem hasRepeated_of_nodup {names : List String} (h : names.Nodup) :
    hasRepeated names = false := by
  induction h with
  | nil => rfl
  | cons hname _ ih => simpa [hasRepeated, ih] using fun h => hname _ h rfl

theorem names_given_sublist (fields : List (String × Option Document)) :
    ((given fields).entries.map Prod.fst).Sublist (fields.map Prod.fst) := by
  induction fields with
  | nil => exact .slnil
  | cons f fields ih =>
      obtain ⟨name, d⟩ := f
      cases d with
      | none => exact .cons name ih
      | some d => exact .cons_cons name ih

/-- All fields of a record are known to a reader that knows their names. -/
theorem fields?_ofFields {fields : List (String × Option Document)} {names : List String}
    (hnodup : names.Nodup) (hnames : fields.map Prod.fst = names) (strict : Bool) :
    (ofFields fields).fields? names strict = some (given fields) := by
  have hsublist := names_given_sublist fields
  rw [hnames] at hsublist
  have hknown : ((given fields).entries.filter fun e => names.contains e.1) =
      (given fields).entries := by
    refine List.filter_eq_self.mpr fun e he => ?_
    simpa using hsublist.subset (List.mem_map_of_mem he)
  have hdistinct := hasRepeated_of_nodup (hnodup.sublist hsublist)
  change (let known := (given fields).entries.filter fun e => names.contains e.1
    if hasRepeated (known.map Prod.fst) then none
    else if strict && known.length ≠ (given fields).entries.length then none
    else some (⟨known, false⟩ : Fields)) = _
  simp only [hknown, hdistinct]
  simp [given]

theorem rereads_ofFields {fields fields' : List (String × Option Document)}
    (h : List.Forall₂ (fun f f' => f.1 = f'.1 ∧ Option.Rel Json.Rereads f.2 f'.2)
      fields fields') : Json.Rereads (ofFields fields) (ofFields fields') := by
  refine Json.rereads_record ?_
  induction h with
  | nil => exact .nil
  | @cons f f' fields fields' hf _ ih =>
      obtain ⟨name, d⟩ := f
      obtain ⟨name', d'⟩ := f'
      obtain ⟨rfl, hd⟩ := hf
      cases hd with
      | none => exact ih
      | some hd => exact .cons ⟨rfl, hd⟩ ih

end HomeClimate.Document
