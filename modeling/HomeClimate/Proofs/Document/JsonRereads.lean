import HomeClimate.Proofs.Document.JsonScalars
import Mathlib.Data.List.DropRight
import Mathlib.Data.List.Forall2

/-!
# Documents that are written and read again

A document on many lines is read as the document that it was made of, as far as its
numbers are: `Rereads d d'` says that `d` is read as `d'` when it was written, at any
level.  A text, a truth value and a whole number of 64 bits are read as themselves, and
lists and records as lists and records of what their parts are read as.

This goes from the inside out.  A text *reads* as a document (`Reads`) if it does so
whatever inert text comes after it, and given as much fuel as there are characters.
What is left after it need not be all that came after it: blanks may be gone.
-/

namespace HomeClimate.Json

/-! ## Blanks -/

/-- A line break and blanks. -/
def IsBreak (cs : List Char) : Prop := ∃ n, cs = '\n' :: List.replicate n ' '

theorem isBreak_newLine (level : Nat) : IsBreak (newLine level).toList :=
  ⟨2 * level, by simp [newLine]⟩

theorem IsBreak.skip_append {cs : List Char} (h : IsBreak cs) (rest : List Char) :
    skip (cs ++ rest) = skip rest := by
  obtain ⟨n, rfl⟩ := h
  have hspaces : skip (List.replicate n ' ' ++ rest) = skip rest := by
    induction n with
    | zero => rfl
    | succ n ih => exact ih
  exact hspaces

theorem IsBreak.inert_append {cs : List Char} (h : IsBreak cs) (rest : List Char) :
    Inert (cs ++ rest) := by
  obtain ⟨n, rfl⟩ := h
  intro c hc
  cases hc
  exact .inr rfl

theorem inert_comma (rest : List Char) : Inert (',' :: rest) := by
  intro c hc
  cases hc
  exact .inl rfl

theorem skip_append {cs : List Char} {c : Char} {rest : List Char} (h : skip cs = c :: rest)
    (tail : List Char) : skip (cs ++ tail) = c :: rest ++ tail := by
  induction cs with
  | nil => cases h
  | cons a cs ih =>
      rw [skip, List.dropWhile_cons] at h
      rw [skip, List.cons_append, List.dropWhile_cons]
      split_ifs at h ⊢ with hspace
      · exact ih h
      · exact congrArg (· ++ tail) h

theorem isSpace_of_skip {cs rest : List Char} {c : Char} (h : skip cs = c :: rest) :
    isSpace c = false := by
  induction cs with
  | nil => cases h
  | cons a cs ih =>
      rw [skip, List.dropWhile_cons] at h
      split_ifs at h with hspace
      · exact ih h
      · obtain ⟨rfl, -⟩ := List.cons.inj h
        simpa using hspace

theorem skip_cons {c : Char} (h : isSpace c = false) (rest : List Char) :
    skip (c :: rest) = c :: rest :=
  List.dropWhile_cons_of_neg (by rw [h]; exact Bool.false_ne_true)

/-- Blanks before a value are nothing to it. -/
theorem value?_of_skip {cs cs' : List Char} (h : skip cs = skip cs') (fuel : Nat) :
    value? fuel cs = value? fuel cs' := by
  cases fuel with
  | zero => rfl
  | succ fuel => rw [value?, value?, h]

theorem items?_of_skip {cs cs' : List Char} (h : skip cs = skip cs') (fuel : Nat) :
    items? fuel cs = items? fuel cs' := by
  cases fuel with
  | zero => rfl
  | succ fuel => rw [items?, items?, value?_of_skip h]

theorem fields?_of_skip {cs cs' : List Char} (h : skip cs = skip cs') (fuel : Nat) :
    fields? fuel cs = fields? fuel cs' := by
  cases fuel with
  | zero => rfl
  | succ fuel => rw [fields?, fields?, h]

theorem skip_skip (cs : List Char) : skip (skip cs) = skip cs :=
  List.dropWhile_idempotent isSpace cs

/-! ## What a value starts with -/

theorem value?_quote (fuel : Nat) (rest : List Char) :
    value? (fuel + 1) ('"' :: rest) =
      (textBody? (rest.length + 1) rest).map fun text => (textOf text.1, text.2) := by
  change (textBody? (rest.length + 1) rest >>= fun text => some (textOf text.1, text.2)) = _
  cases textBody? (rest.length + 1) rest <;> rfl

theorem value?_minus (fuel : Nat) (rest : List Char) :
    value? (fuel + 1) ('-' :: rest) =
      (number? true rest).map fun number => (.number number.1, number.2) := by
  change (number? true rest >>= fun number => some (Document.number number.1, number.2)) = _
  cases number? true rest <;> rfl

/-- The characters that a value starts with if it is no number. -/
def isOpening (c : Char) : Bool :=
  c = '"' || c = '[' || c = '\x7b' || c = '-' || c = 'n' || c = 't' || c = 'f'

theorem value?_number {c : Char} {rest : List Char} (hc : isOpening c = false)
    (hspace : isSpace c = false) (fuel : Nat) :
    value? (fuel + 1) (c :: rest) =
      (number? false (c :: rest)).map fun number => (.number number.1, number.2) := by
  simp only [isOpening, Bool.or_eq_false_iff, decide_eq_false_iff_not] at hc
  obtain ⟨⟨⟨⟨⟨⟨hquote, hbracket⟩, hbrace⟩, hminus⟩, hn⟩, ht⟩, hf⟩ := hc
  rw [value?, skip_cons hspace]
  split
  case h_1 heq => cases heq
  case h_2 heq => exact absurd (List.cons.inj heq).1 hquote
  case h_3 heq => exact absurd (List.cons.inj heq).1 hbracket
  case h_4 heq => exact absurd (List.cons.inj heq).1 hbrace
  case h_5 heq => exact absurd (List.cons.inj heq).1 hminus
  case h_6 heq => exact absurd (List.cons.inj heq).1 hn
  case h_7 heq => exact absurd (List.cons.inj heq).1 ht
  case h_8 heq => exact absurd (List.cons.inj heq).1 hf
  case h_9 => cases number? false (c :: rest) <;> rfl

/-- What is read as a double is a number, and starts as one. -/
theorem value?_of_double {fuel : Nat} {cs rest : List Char} {d : Document} {x : Float}
    (h : value? (fuel + 1) cs = some (d, rest)) (hx : d.asDouble? = some x) :
    ∃ c digits n, skip cs = c :: digits ∧ d = .number n ∧
      (c = '-' ∧ number? true digits = some (n, rest) ∨
        isOpening c = false ∧ number? false (c :: digits) = some (n, rest)) := by
  cases hskip : skip cs with
  | nil =>
      rw [value?, hskip] at h
      cases h
  | cons c digits =>
      rw [value?, hskip] at h
      split at h
      case h_1 heq => cases heq
      case h_2 =>
        obtain ⟨⟨body, _⟩, -, heq⟩ := Option.bind_eq_some_iff.mp h
        cases heq
        cases body <;> cases hx
      case h_3 =>
        split at h
        · cases h
          cases hx
        · obtain ⟨_, -, heq⟩ := Option.bind_eq_some_iff.mp h
          cases heq
          cases hx
      case h_4 =>
        split at h
        · cases h
          cases hx
        · obtain ⟨⟨fields, _⟩, -, heq⟩ := Option.bind_eq_some_iff.mp h
          cases heq
          rw [recordOf] at hx
          split at hx <;> cases hx
      case h_5 digits' heq =>
        obtain ⟨⟨n, _⟩, hn, hd⟩ := Option.bind_eq_some_iff.mp h
        cases heq
        cases hd
        exact ⟨'-', digits, n, rfl, rfl, .inl ⟨rfl, hn⟩⟩
      case h_6 =>
        obtain ⟨_, -, heq⟩ := Option.map_eq_some_iff.mp h
        cases heq
        cases hx
      case h_7 =>
        obtain ⟨_, -, heq⟩ := Option.map_eq_some_iff.mp h
        cases heq
        cases hx
      case h_8 =>
        obtain ⟨_, -, heq⟩ := Option.map_eq_some_iff.mp h
        cases heq
        cases hx
      case h_9 hquote hbracket hbrace hminus hn ht hf =>
        obtain ⟨⟨n, _⟩, hnumber, hd⟩ := Option.bind_eq_some_iff.mp h
        cases hd
        refine ⟨c, digits, n, rfl, rfl, .inr ⟨?_, hnumber⟩⟩
        simp only [isOpening, Bool.or_eq_false_iff, decide_eq_false_iff_not]
        refine ⟨⟨⟨⟨⟨⟨?_, ?_⟩, ?_⟩, ?_⟩, ?_⟩, ?_⟩, ?_⟩ <;> rintro rfl
        · exact hquote _ rfl
        · exact hbracket _ rfl
        · exact hbrace _ rfl
        · exact hminus _ rfl
        · exact hn _ rfl
        · exact ht _ rfl
        · exact hf _ rfl

/-! ## Scalars -/

/-- A text is read as a document whatever comes after it. -/
def Reads (cs : List Char) (d : Document) : Prop :=
  ∀ tail fuel, Inert tail → (cs ++ tail).length ≤ fuel →
    ∃ rest, value? fuel (cs ++ tail) = some (d, rest) ∧ skip rest = skip tail

/-- A text of some characters takes some fuel. -/
theorem exists_fuel {c : Char} {cs : List Char} {fuel : Nat} (h : (c :: cs).length ≤ fuel) :
    ∃ more, fuel = more + 1 ∧ cs.length ≤ more :=
  ⟨fuel - 1, by simp at h; omega, by simp at h; omega⟩

theorem length_le_flatMap_escape (body : List Char) :
    body.length ≤ (body.flatMap escape).length := by
  induction body with
  | nil => exact Nat.le_refl 0
  | cons c body ih =>
      have hc : 1 ≤ (escape c).length := by
        rw [escape]
        split_ifs <;> simp
      rw [List.flatMap_cons, List.length_append, List.length_cons]
      omega

/-- A text between quotes is read back, and nothing of what comes after it. -/
theorem textBody?_of_quoted (body rest : List Char) :
    textBody? ((body.flatMap escape ++ '"' :: rest).length + 1)
      (body.flatMap escape ++ '"' :: rest) = some (some body, rest) := by
  have hlong := length_le_flatMap_escape body
  refine textBody?_escape body rest ?_
  rw [List.length_append]
  omega

theorem reads_text (s : String) : Reads (writeText s).toList (.text s) := by
  intro tail fuel _ hfuel
  have hcs : (writeText s).toList ++ tail = '"' :: (s.toList.flatMap escape ++ '"' :: tail) := by
    simp [writeText]
  rw [hcs] at hfuel ⊢
  obtain ⟨more, rfl, -⟩ := exists_fuel hfuel
  refine ⟨tail, ?_, rfl⟩
  rw [value?_quote, textBody?_of_quoted, Option.map_some, textOf, String.ofList_toList]

theorem reads_bool (b : Bool) : Reads (if b then "true" else "false").toList (.bool b) := by
  intro tail fuel _ hfuel
  cases b with
  | true =>
      obtain ⟨more, rfl, -⟩ := exists_fuel hfuel
      exact ⟨tail, rfl, rfl⟩
  | false =>
      obtain ⟨more, rfl, -⟩ := exists_fuel hfuel
      exact ⟨tail, rfl, rfl⟩

theorem isOpening_of_isDigit {c : Char} (h : c.isDigit = true) :
    isOpening c = false ∧ isSpace c = false := by
  refine ⟨?_, ?_⟩
  · simp only [isOpening, Bool.or_eq_false_iff, decide_eq_false_iff_not]
    refine ⟨⟨⟨⟨⟨⟨?_, ?_⟩, ?_⟩, ?_⟩, ?_⟩, ?_⟩, ?_⟩ <;> rintro rfl <;> cases h
  · simp only [isSpace, Bool.or_eq_false_iff, decide_eq_false_iff_not]
    refine ⟨⟨⟨?_, ?_⟩, ?_⟩, ?_⟩ <;> rintro rfl <;> cases h

/-- A whole number of 64 bits is read as itself. -/
theorem reads_integer {i : Int} (h : fits64 i = true) :
    Reads (toString i).toList (.number (.integer i)) := by
  intro tail fuel htail hfuel
  refine ⟨tail, ?_, rfl⟩
  cases i with
  | ofNat n =>
      have hcs : (toString (Int.ofNat n)).toList = Nat.toDigits 10 n := Nat.toList_repr
      have hnumber : number? false (Nat.toDigits 10 n) = some (.integer n, []) :=
        number?_toDigits rfl h (by simp)
      rw [hcs] at hfuel ⊢
      have hdigits : ∀ c ∈ Nat.toDigits 10 n, c.isDigit = true :=
        fun c hc => Nat.isDigit_of_mem_toDigits (by decide) (by decide) hc
      cases hn : Nat.toDigits 10 n with
      | nil => exact absurd hn Nat.toDigits_ne_nil
      | cons c cs =>
          rw [hn] at hfuel hdigits hnumber
          obtain ⟨more, rfl, -⟩ := exists_fuel hfuel
          obtain ⟨hopening, hspace⟩ := isOpening_of_isDigit (hdigits c List.mem_cons_self)
          rw [List.cons_append, value?_number hopening hspace, ← List.cons_append,
            number?_append false _ htail, hnumber]
          rfl
  | negSucc n =>
      have hcs : (toString (Int.negSucc n)).toList = '-' :: Nat.toDigits 10 (n + 1) := by
        rw [← Nat.toList_repr]
        exact String.toList_append
      have hnumber : number? true (Nat.toDigits 10 (n + 1)) =
          some (.integer (Int.negSucc n), []) := number?_toDigits rfl h (by simp)
      rw [hcs, List.cons_append] at hfuel ⊢
      obtain ⟨more, rfl, -⟩ := exists_fuel hfuel
      rw [value?_minus, number?_append true _ htail, hnumber]
      rfl

/-- What is read as a double by itself is read as the same number whatever comes after it. -/
theorem reads_of_double {s : String} {d : Document} {x : Float} (h : read? s = some d)
    (hx : d.asDouble? = some x) : ∃ n, Reads s.toList (.number n) ∧ n.toDouble? = some x := by
  obtain ⟨⟨d', rest⟩, hvalue, h⟩ := Option.bind_eq_some_iff.mp h
  dsimp only at h
  split_ifs at h with hempty
  cases h
  have hblank : skip rest = [] := List.isEmpty_iff.mp hempty
  obtain ⟨c, digits, n, hskip, rfl, hn⟩ := value?_of_double hvalue hx
  refine ⟨n, fun tail fuel htail hfuel => ⟨rest ++ tail, ?_, ?_⟩, hx⟩
  · cases hs : s.toList with
    | nil =>
        rw [hs] at hskip
        cases hskip
    | cons a as =>
        rw [hs] at hfuel hskip
        obtain ⟨more, rfl, -⟩ := exists_fuel hfuel
        have hspace := isSpace_of_skip hskip
        have hfront : skip (a :: as ++ tail) = skip (c :: (digits ++ tail)) :=
          (skip_append hskip tail).trans (skip_cons hspace _).symm
        rw [value?_of_skip hfront]
        rcases hn with ⟨rfl, hn⟩ | ⟨hopening, hn⟩
        · rw [value?_minus, number?_append true _ htail, hn]
          rfl
        · rw [value?_number hopening hspace, ← List.cons_append,
            number?_append false _ htail, hn]
          rfl
  · rw [skip, List.dropWhile_append, ← skip, hblank]
    rfl

/-! ## Parts, each on its line -/

/-- Parts one under the other, each after a line break and with commas in between. -/
def lines (indent : List Char) : List (List Char) → List Char
  | [] => []
  | [part] => indent ++ part
  | part :: next :: rest => indent ++ part ++ ',' :: lines indent (next :: rest)

theorem append_intercalate (indent part : List Char) (parts : List (List Char)) :
    indent ++ (',' :: indent).intercalate (part :: parts) = lines indent (part :: parts) := by
  induction parts generalizing part with
  | nil => rw [List.intercalate_singleton, lines]
  | cons next rest ih =>
      rw [List.intercalate_cons_cons, lines, ← ih next]
      simp

theorem toList_block (level : Nat) (opening closing part : String) (parts : List String) :
    (block level opening closing (part :: parts)).toList =
      opening.toList ++ (lines (newLine (level + 1)).toList ((part :: parts).map String.toList) ++
        ((newLine level).toList ++ closing.toList)) := by
  rw [List.map_cons, ← append_intercalate]
  simp [block, String.toList_intercalate]

/-- A value is read after a line break, too, and needs no fuel for the break. -/
theorem Reads.after_break {part : List Char} {d : Document} (h : Reads part d)
    {indent : List Char} (hindent : IsBreak indent) {tail : List Char} (htail : Inert tail)
    {fuel : Nat} (hfuel : (indent ++ part ++ tail).length ≤ fuel + 1) :
    ∃ rest, value? fuel (indent ++ part ++ tail) = some (d, rest) ∧ skip rest = skip tail := by
  have hlong : (part ++ tail).length ≤ fuel := by
    obtain ⟨n, rfl⟩ := hindent
    simp only [List.length_append, List.length_cons] at hfuel ⊢
    omega
  rw [List.append_assoc, value?_of_skip (hindent.skip_append (part ++ tail))]
  exact h tail fuel htail hlong

theorem items?_of_comma {fuel : Nat} {cs rest more : List Char} {item : Document}
    (hvalue : value? fuel cs = some (item, rest)) (hskip : skip rest = ',' :: more) :
    items? (fuel + 1) cs = (items? fuel more).map fun items => (item :: items.1, items.2) := by
  rw [items?, hvalue, Option.bind_eq_bind, Option.bind_some]
  dsimp only
  rw [hskip]
  change (items? fuel more >>= fun items => some (item :: items.1, items.2)) = _
  cases items? fuel more <;> rfl

theorem items?_of_bracket {fuel : Nat} {cs rest more : List Char} {item : Document}
    (hvalue : value? fuel cs = some (item, rest)) (hskip : skip rest = ']' :: more) :
    items? (fuel + 1) cs = some ([item], more) := by
  rw [items?, hvalue, Option.bind_eq_bind, Option.bind_some]
  dsimp only
  rw [hskip]
  rfl

/-- Items on lines of their own are read as what each of them is read as. -/
theorem items?_lines {parts : List (List Char)} {docs : List Document}
    (h : List.Forall₂ Reads parts docs) (hne : parts ≠ []) {indent close : List Char}
    (hindent : IsBreak indent) (hclose : IsBreak close) (tail : List Char) {fuel : Nat}
    (hfuel : (lines indent parts ++ (close ++ ']' :: tail)).length ≤ fuel) :
    items? fuel (lines indent parts ++ (close ++ ']' :: tail)) = some (docs, tail) := by
  induction h generalizing fuel with
  | nil => exact absurd rfl hne
  | @cons part doc parts docs hpart hparts ih =>
      have hsome : 0 < fuel := by
        simp only [List.length_append, List.length_cons] at hfuel
        omega
      obtain ⟨fuel, rfl⟩ := Nat.exists_eq_succ_of_ne_zero (Nat.ne_of_gt hsome)
      cases parts with
      | nil =>
          cases hparts
          rw [lines] at hfuel ⊢
          obtain ⟨rest, hvalue, hskip⟩ :=
            hpart.after_break hindent (hclose.inert_append (']' :: tail)) hfuel
          have hbracket : skip rest = ']' :: tail := by
            rw [hskip, hclose.skip_append]
            rfl
          exact items?_of_bracket hvalue hbracket
      | cons next others =>
          rw [lines, List.append_assoc, List.cons_append] at hfuel ⊢
          obtain ⟨rest, hvalue, hskip⟩ := hpart.after_break hindent (inert_comma _) hfuel
          have hcomma : skip rest =
              ',' :: (lines indent (next :: others) ++ (close ++ ']' :: tail)) := hskip
          have hshort :
              (lines indent (next :: others) ++ (close ++ ']' :: tail)).length ≤ fuel := by
            simp only [List.length_append, List.length_cons] at hfuel ⊢
            omega
          rw [items?_of_comma hvalue hcomma, ih (List.cons_ne_nil _ _) hshort]
          rfl

/-- No item starts with a closing bracket. -/
theorem items?_bracket (fuel : Nat) (rest : List Char) : items? fuel (']' :: rest) = none := by
  cases fuel with
  | zero => rfl
  | succ fuel =>
      cases fuel with
      | zero => rfl
      | succ fuel => rfl

/-- A list with something in it is read as its items. -/
theorem value?_list {fuel : Nat} {cs rest : List Char} {items : List Document}
    (h : items? fuel cs = some (items, rest)) :
    value? (fuel + 1) ('[' :: cs) = some (.list items, rest) := by
  have hfront : skip ('[' :: cs) = '[' :: cs := rfl
  rw [← items?_of_skip (skip_skip cs)] at h
  simp only [value?, hfront]
  split
  · rename_i hskip
    rw [hskip, items?_bracket] at h
    cases h
  · rw [h]
    rfl

/-! ## Fields -/

/-- A field of a record as a text. -/
def fieldText (field : String × List Char) : List Char :=
  '"' :: (field.1.toList.flatMap escape ++ '"' :: ':' :: ' ' :: field.2)

/-- A field as the parser has it. -/
def parsed (field : String × Document) : Option (List Char) × Document :=
  (some field.1.toList, field.2)

/-- A field with this text is read as a field with this document. -/
def FieldReads (field : String × List Char) (field' : String × Document) : Prop :=
  field.1 = field'.1 ∧ Reads field.2 field'.2

/-- What is read of a field on a line of its own, up to what comes after it. -/
theorem FieldReads.after_break {field : String × List Char} {field' : String × Document}
    (h : FieldReads field field') {indent : List Char} (hindent : IsBreak indent)
    {tail : List Char} (htail : Inert tail) {fuel : Nat}
    (hfuel : (indent ++ fieldText field ++ tail).length ≤ fuel + 1) :
    ∃ body more rest, skip (indent ++ fieldText field ++ tail) = '"' :: body ∧
      textBody? (body.length + 1) body = some (some field'.1.toList, ':' :: more) ∧
      value? fuel more = some (field'.2, rest) ∧ skip rest = skip tail := by
  obtain ⟨name, value⟩ := field
  obtain ⟨rfl, hreads⟩ := h
  have hlong : (value ++ tail).length ≤ fuel := by
    simp only [fieldText, List.length_append, List.length_cons] at hfuel ⊢
    omega
  obtain ⟨rest, hvalue, hrest⟩ := hreads tail fuel htail hlong
  have hblank : skip (' ' :: (value ++ tail)) = skip (value ++ tail) := rfl
  refine ⟨field'.1.toList.flatMap escape ++ '"' :: ':' :: ' ' :: (value ++ tail),
    ' ' :: (value ++ tail), rest, ?_, ?_, ?_, hrest⟩
  · rw [List.append_assoc, hindent.skip_append, fieldText, List.cons_append]
    simp [skip_cons (c := '"') rfl]
  · exact textBody?_of_quoted _ _
  · exact (value?_of_skip hblank fuel).trans hvalue

section Fields

variable {fuel : Nat} {cs body more more' rest : List Char} {name : Option (List Char)}
  {value : Document}

theorem fields?_of_comma (hskip : skip cs = '"' :: body)
    (hname : textBody? (body.length + 1) body = some (name, ':' :: more))
    (hvalue : value? fuel more = some (value, rest)) (hrest : skip rest = ',' :: more') :
    fields? (fuel + 1) cs =
      (fields? fuel more').map fun fields => ((name, value) :: fields.1, fields.2) := by
  have hcolon : skip (':' :: more) = ':' :: more := rfl
  simp only [fields?, hskip, hname, hcolon, hvalue, hrest, Option.bind_eq_bind, Option.bind_some]
  cases fields? fuel more' <;> rfl

theorem fields?_of_brace (hskip : skip cs = '"' :: body)
    (hname : textBody? (body.length + 1) body = some (name, ':' :: more))
    (hvalue : value? fuel more = some (value, rest)) (hrest : skip rest = '\x7d' :: more') :
    fields? (fuel + 1) cs = some ([(name, value)], more') := by
  have hcolon : skip (':' :: more) = ':' :: more := rfl
  simp only [fields?, hskip, hname, hcolon, hvalue, hrest, Option.bind_eq_bind, Option.bind_some]

end Fields

/-- Fields on lines of their own are read as what each of them is read as. -/
theorem fields?_lines {fields : List (String × List Char)} {docs : List (String × Document)}
    (h : List.Forall₂ FieldReads fields docs) (hne : fields ≠ []) {indent close : List Char}
    (hindent : IsBreak indent) (hclose : IsBreak close) (tail : List Char) {fuel : Nat}
    (hfuel : (lines indent (fields.map fieldText) ++ (close ++ '\x7d' :: tail)).length ≤ fuel) :
    fields? fuel (lines indent (fields.map fieldText) ++ (close ++ '\x7d' :: tail)) =
      some (docs.map parsed, tail) := by
  induction h generalizing fuel with
  | nil => exact absurd rfl hne
  | @cons field doc fields docs hfield hfields ih =>
      have hsome : 0 < fuel := by
        simp only [List.length_append, List.length_cons] at hfuel
        omega
      obtain ⟨fuel, rfl⟩ := Nat.exists_eq_succ_of_ne_zero (Nat.ne_of_gt hsome)
      cases fields with
      | nil =>
          cases hfields
          rw [List.map_singleton, lines] at hfuel ⊢
          obtain ⟨body, more, rest, hskip, hname, hvalue, hrest⟩ :=
            hfield.after_break hindent (hclose.inert_append ('\x7d' :: tail)) hfuel
          have hbrace : skip rest = '\x7d' :: tail := by
            rw [hrest, hclose.skip_append]
            rfl
          exact fields?_of_brace hskip hname hvalue hbrace
      | cons next others =>
          rw [List.map_cons, List.map_cons, lines, List.append_assoc, List.cons_append,
            ← List.map_cons] at hfuel ⊢
          obtain ⟨body, more, rest, hskip, hname, hvalue, hrest⟩ :=
            hfield.after_break hindent (inert_comma _) hfuel
          have hcomma : skip rest = ',' :: (lines indent ((next :: others).map fieldText) ++
              (close ++ '\x7d' :: tail)) := hrest
          have hshort : (lines indent ((next :: others).map fieldText) ++
              (close ++ '\x7d' :: tail)).length ≤ fuel := by
            simp only [List.length_append, List.length_cons] at hfuel ⊢
            omega
          rw [fields?_of_comma hskip hname hvalue hcomma, ih (List.cons_ne_nil _ _) hshort]
          rfl

/-- No field starts with a closing brace. -/
theorem fields?_brace (fuel : Nat) (rest : List Char) : fields? fuel ('\x7d' :: rest) = none := by
  cases fuel with
  | zero => rfl
  | succ fuel => rfl

theorem recordOf_parsed (fields : List (String × Document)) :
    recordOf (fields.map parsed) = .record fields := by
  have hnames : (fields.map parsed).mapM
      (fun f => f.1.map fun name => (String.ofList name, f.2)) = some fields := by
    induction fields with
    | nil => rfl
    | cons field fields ih =>
        rw [List.map_cons, List.mapM_cons, ih]
        simp [parsed]
  rw [recordOf, hnames]

/-- A record with something in it is read as its fields. -/
theorem value?_record {fuel : Nat} {cs rest : List Char} {fields : List (String × Document)}
    (h : fields? fuel cs = some (fields.map parsed, rest)) :
    value? (fuel + 1) ('\x7b' :: cs) = some (.record fields, rest) := by
  have hfront : skip ('\x7b' :: cs) = '\x7b' :: cs := rfl
  rw [← fields?_of_skip (skip_skip cs)] at h
  simp only [value?, hfront]
  split
  · rename_i hskip
    rw [hskip, fields?_brace] at h
    cases h
  · rw [h, Option.bind_eq_bind, Option.bind_some, recordOf_parsed]

/-! ## Documents -/

/-- A document is read as another one when it was written, at any level. -/
def Rereads (d d' : Document) : Prop := ∀ level, Reads (pretty level d).toList d'

theorem rereads_text (s : String) : Rereads (.text s) (.text s) := fun _ => reads_text s

theorem rereads_bool (b : Bool) : Rereads (.bool b) (.bool b) := fun _ => reads_bool b

theorem rereads_integer {i : Int} (h : fits64 i = true) :
    Rereads (.number (.integer i)) (.number (.integer i)) := fun _ => reads_integer h

theorem prettyItems_eq (level : Nat) (docs : List Document) :
    prettyItems level docs = docs.map (pretty level) := by
  induction docs with
  | nil => rfl
  | cons d docs ih => rw [prettyItems, ih, List.map_cons]

theorem rereads_list {docs docs' : List Document} (h : List.Forall₂ Rereads docs docs') :
    Rereads (.list docs) (.list docs') := by
  intro level tail fuel _ hfuel
  refine ⟨tail, ?_, rfl⟩
  rw [pretty, prettyItems_eq] at hfuel ⊢
  cases h with
  | nil =>
      have hcs : (block level "[" "]" ([].map (pretty (level + 1)))).toList ++ tail =
          '[' :: ']' :: tail := by simp [block]
      rw [hcs] at hfuel ⊢
      obtain ⟨more, rfl, -⟩ := exists_fuel hfuel
      rfl
  | @cons d d' docs docs' hd hdocs =>
      have hparts : List.Forall₂ Reads
          (((d :: docs).map (pretty (level + 1))).map String.toList) (d' :: docs') := by
        rw [List.map_map, List.forall₂_map_left_iff]
        exact .cons (hd (level + 1)) (hdocs.imp fun _ _ h => h (level + 1))
      have hcs : (block level "[" "]" ((d :: docs).map (pretty (level + 1)))).toList ++ tail =
          '[' :: (lines (newLine (level + 1)).toList
            (((d :: docs).map (pretty (level + 1))).map String.toList) ++
              ((newLine level).toList ++ ']' :: tail)) := by
        rw [List.map_cons, toList_block]
        simp
      rw [hcs] at hfuel ⊢
      obtain ⟨more, rfl, hmore⟩ := exists_fuel hfuel
      exact value?_list (items?_lines hparts (List.cons_ne_nil _ _) (isBreak_newLine _)
        (isBreak_newLine _) tail hmore)

theorem prettyFields_eq (level : Nat) (fields : List (String × Document)) :
    (prettyFields level fields).map String.toList =
      (fields.map fun f => (f.1, (pretty level f.2).toList)).map fieldText := by
  induction fields with
  | nil => rfl
  | cons f fields ih =>
      rw [prettyFields, List.map_cons, ih]
      simp [fieldText, writeText]

theorem rereads_record {fields fields' : List (String × Document)}
    (h : List.Forall₂ (fun f f' => f.1 = f'.1 ∧ Rereads f.2 f'.2) fields fields') :
    Rereads (.record fields) (.record fields') := by
  intro level tail fuel _ hfuel
  refine ⟨tail, ?_, rfl⟩
  rw [pretty] at hfuel ⊢
  cases h with
  | nil =>
      have hcs : (block level "\x7b" "\x7d" (prettyFields (level + 1) [])).toList ++ tail =
          '\x7b' :: '\x7d' :: tail := by simp [block, prettyFields]
      rw [hcs] at hfuel ⊢
      obtain ⟨more, rfl, -⟩ := exists_fuel hfuel
      rfl
  | @cons f f' fields fields' hf hfields =>
      have hparts : List.Forall₂ FieldReads
          ((f :: fields).map fun f => (f.1, (pretty (level + 1) f.2).toList)) (f' :: fields') := by
        rw [List.forall₂_map_left_iff]
        exact .cons ⟨hf.1, hf.2 (level + 1)⟩ (hfields.imp fun _ _ h => ⟨h.1, h.2 (level + 1)⟩)
      have hcs : (block level "\x7b" "\x7d" (prettyFields (level + 1) (f :: fields))).toList ++
          tail = '\x7b' :: (lines (newLine (level + 1)).toList
            (((f :: fields).map fun f => (f.1, (pretty (level + 1) f.2).toList)).map fieldText) ++
              ((newLine level).toList ++ '\x7d' :: tail)) := by
        rw [← prettyFields_eq, prettyFields, toList_block]
        simp
      rw [hcs] at hfuel ⊢
      obtain ⟨more, rfl, hmore⟩ := exists_fuel hfuel
      exact value?_record (fields?_lines hparts (List.cons_ne_nil _ _) (isBreak_newLine _)
        (isBreak_newLine _) tail hmore)

/-- What is read of a written document when nothing comes after it. -/
theorem Rereads.read?_pretty {d d' : Document} (h : Rereads d d') (level : Nat) :
    read? (pretty level d) = some d' := by
  obtain ⟨rest, hvalue, hrest⟩ := h level [] (2 * (pretty level d).toList.length + 2)
    (fun c hc => by cases hc) (by simp; omega)
  rw [List.append_nil] at hvalue
  rw [read?]
  simp only [hvalue, Option.bind_eq_bind, Option.bind_some, hrest]
  rfl

end HomeClimate.Json
