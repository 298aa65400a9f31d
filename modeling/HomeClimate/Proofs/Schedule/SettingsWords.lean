import HomeClimate.Proofs.Outcome
import HomeClimate.Schedule.SettingsText
import Mathlib.Data.List.Induction

/-!
# Settings word by word

A word that says something is of one of four kinds (`SettingsText.kind?`), and what it does to the
settings is one case for each (`readWord_eq`).  Where there is at most one word of each kind, each
field is that of the one word of its kind, and a reading succeeds if the words can be read each by
itself (`foldlM_eq_ok_iff`).  So it does not depend on the order of the words, nor on those of no
kind (`settingsOf_congr`).
-/

namespace HomeClimate

variable {ν : Type} [Scalar ν]

namespace SettingsText

/-! ## Kinds of words -/

/-- What a word is about. -/
inductive WordKind where
  /-- Whether the zone is on. -/
  | switch
  /-- Whether it may start the unit. -/
  | vote
  /-- The temperature that it is to have. -/
  | setpoint
  /-- Its place among zones that take surplus air. -/
  | dump
  deriving DecidableEq

/-- What a word is about, if it is about anything. -/
def kind? (word : List Char) : Option WordKind :=
  let w := String.ofList word
  if w = "on" ∨ w = "enabled" ∨ w = "off" ∨ w = "disabled" then some .switch
  else if w = "voting" ∨ w = "non-voting" ∨ w = "not voting" then some .vote
  else if starts "setpoint" word || starts "temperature" word then some .setpoint
  else if starts "dump" word then some .dump
  else none

/-- Whether a word about the zone turns it on. -/
def turnsOn (word : List Char) : Bool :=
  let w := String.ofList word
  decide (w = "on" ∨ w = "enabled")

/-- Whether a word about voting is for it. -/
def isForVoting (word : List Char) : Bool := decide (String.ofList word = "voting")

/-- The setpoint of a word. -/
def setpoint? (word : List Char) : Option ν :=
  (setpoint word [] : Except (ScheduleError ν) ν).toOption

/-- The dump priority of a word. -/
def dumpPriority? (word : List Char) : Option Int := (piecesOf word).findSome? integer32?

/-- An error says in which text the word is, and a value does not. -/
theorem setpoint_eq_ok_iff {word text : List Char} {v : ν} :
    (setpoint word text : Except (ScheduleError ν) ν) = .ok v ↔ setpoint? word = some v := by
  have htext : (setpoint? word : Option ν) = (setpoint word text).toOption := by
    rw [setpoint?, setpoint, setpoint]
    split
    · split <;> rfl
    · rfl
  rw [htext, Outcome.toOption_eq_some_iff]

omit [Scalar ν] in
theorem dumpPriority_eq_ok_iff {word : List Char} {n : Int} :
    (dumpPriority word : Except (ScheduleError ν) Int) = .ok n ↔ dumpPriority? word = some n := by
  have hvalue :
      dumpPriority? word = (dumpPriority word : Except (ScheduleError ν) Int).toOption := by
    rw [dumpPriority, dumpPriority?]
    split <;> simp_all [Except.toOption]
  rw [hvalue, Outcome.toOption_eq_some_iff]

/-- A word does something to the settings according to its kind. -/
theorem readWord_eq (text : List Char) (s : ZoneSettings ν) (word : List Char) :
    readWord text s word =
      match kind? word with
      | some .switch => .ok { s with enabled := some (turnsOn word) }
      | some .vote => .ok { s with voting := some (isForVoting word) }
      | some .setpoint =>
          if s.setpoint.isSome then .ok s
          else (setpoint word text).map fun v => { s with setpoint := some v }
      | some .dump => (dumpPriority word).map fun n => { s with dumpPriority := some n }
      | none => .ok s := by
  -- both sides ask for the same words in the same order
  simp only [readWord, kind?, turnsOn, isForVoting]
  grind

/-- No word speaks of what a schedule does not say. -/
theorem readWord_keeps {text : List Char} {s s' : ZoneSettings ν} {word : List Char}
    (h : readWord text s word = .ok s') : s'.hold = s.hold ∧ s'.economizer = s.economizer := by
  rw [readWord_eq] at h
  split at h
  · cases h
    exact ⟨rfl, rfl⟩
  · cases h
    exact ⟨rfl, rfl⟩
  · split at h
    · cases h
      exact ⟨rfl, rfl⟩
    · obtain ⟨v, -, rfl⟩ := Outcome.of_map_eq_ok h
      exact ⟨rfl, rfl⟩
  · obtain ⟨n, -, rfl⟩ := Outcome.of_map_eq_ok h
    exact ⟨rfl, rfl⟩
  · cases h
    exact ⟨rfl, rfl⟩

/-! ## Words one of a kind -/

/-- There is at most one word of each kind. -/
def OnePerKind (words : List (List Char)) : Prop :=
  ∀ k, words.countP (fun w => kind? w = some k) ≤ 1

instance (words : List (List Char)) : Decidable (OnePerKind words) :=
  decidable_of_iff (∀ k ∈ [WordKind.switch, .vote, .setpoint, .dump],
    words.countP (fun w => kind? w = some k) ≤ 1)
    ⟨fun h k => h k (by cases k <;> decide), fun h k _ => h k⟩

/-- The word of a kind. -/
def wordOf? (k : WordKind) (words : List (List Char)) : Option (List Char) :=
  words.find? fun w => kind? w = some k

/-- The words that say something. -/
def meaningful (words : List (List Char)) : List (List Char) :=
  words.filter fun w => (kind? w).isSome

/-- The last word is the first one of its kind. -/
theorem wordOf?_eq_none {k : WordKind} {words : List (List Char)} {w : List Char}
    (h : OnePerKind (words ++ [w])) (hw : kind? w = some k) : wordOf? k words = none := by
  have hcount := h k
  rw [List.countP_append, List.countP_singleton, if_pos (decide_eq_true hw)] at hcount
  rw [wordOf?, List.find?_eq_none]
  exact List.countP_eq_zero.mp (by omega)

theorem wordOf?_concat {k : WordKind} {words : List (List Char)} {w : List Char}
    (h : OnePerKind (words ++ [w])) :
    wordOf? k (words ++ [w]) = if kind? w = some k then some w else wordOf? k words := by
  have happend : wordOf? k (words ++ [w]) = (wordOf? k words).or (wordOf? k [w]) :=
    List.find?_append
  rw [happend]
  split
  next hw =>
    have hsome : wordOf? k [w] = some w := List.find?_cons_of_pos (by simpa using hw)
    rw [wordOf?_eq_none h hw, hsome, Option.none_or]
  next hw =>
    have hnone : wordOf? k [w] = none := List.find?_cons_of_neg (by simpa using hw)
    rw [hnone, Option.or_none]

theorem OnePerKind.of_sublist {words words' : List (List Char)} (h : OnePerKind words)
    (hsub : words'.Sublist words) : OnePerKind words' :=
  fun k => Nat.le_trans hsub.countP_le (h k)

theorem OnePerKind.eq {words : List (List Char)} (h : OnePerKind words) {k : WordKind}
    {w w' : List Char} (hw : w ∈ words) (hw' : w' ∈ words) (hk : kind? w = some k)
    (hk' : kind? w' = some k) : w = w' := by
  have hlength := h k
  rw [List.countP_eq_length_filter] at hlength
  have hmem : w ∈ words.filter fun w => kind? w = some k := by simp [hw, hk]
  have hmem' : w' ∈ words.filter fun w => kind? w = some k := by simp [hw', hk']
  obtain ⟨i, hi, rfl⟩ := List.mem_iff_getElem.mp hmem
  obtain ⟨j, hj, rfl⟩ := List.mem_iff_getElem.mp hmem'
  congr 1
  omega

/-- The words that say nothing do not count, and neither does the order of the others. -/
theorem wordOf?_congr {words words' : List (List Char)} (h : OnePerKind words)
    (hperm : (meaningful words').Perm (meaningful words)) (k : WordKind) :
    wordOf? k words' = wordOf? k words := by
  -- the words of one kind are at most one, and so in no order
  have hkind : ∀ ws : List (List Char),
      wordOf? k ws = ((meaningful ws).filter fun w => kind? w = some k).head? := by
    intro ws
    rw [wordOf?, ← List.head?_filter, meaningful, List.filter_filter]
    congr 1
    refine List.filter_congr fun w _ => ?_
    by_cases hw : kind? w = some k
    · simp [hw]
    · simp [hw]
  have hfilter := hperm.filter fun w => kind? w = some k
  have hlength : ((meaningful words).filter fun w => kind? w = some k).length ≤ 1 := by
    rw [← List.countP_eq_length_filter]
    exact Nat.le_trans (List.filter_sublist.countP_le) (h k)
  rw [hkind, hkind]
  match hone : (meaningful words).filter fun w => kind? w = some k, hlength with
  | [], _ =>
      rw [hone] at hfilter
      rw [hfilter.eq_nil]
  | [w], _ =>
      rw [hone] at hfilter
      rw [List.perm_singleton.mp hfilter]

/-! ## The settings of words -/

/-- A word can be read, if it is one that has a number. -/
def IsReadable (ν : Type) [Scalar ν] (word : List Char) : Prop :=
  match kind? word with
  | some .setpoint => (setpoint? word : Option ν).isSome = true
  | some .dump => (dumpPriority? word).isSome = true
  | _ => True

/-- What words set, one word for each field. -/
def settingsOf (words : List (List Char)) : ZoneSettings ν :=
  { enabled := (wordOf? .switch words).map turnsOn
    setpoint := (wordOf? .setpoint words).bind setpoint?
    voting := (wordOf? .vote words).map isForVoting
    dumpPriority := (wordOf? .dump words).bind dumpPriority? }

theorem settingsOf_concat {words : List (List Char)} {word : List Char}
    (h : OnePerKind (words ++ [word])) :
    (settingsOf (words ++ [word]) : ZoneSettings ν) =
      match kind? word with
      | some .switch => { settingsOf words with enabled := some (turnsOn word) }
      | some .vote => { settingsOf words with voting := some (isForVoting word) }
      | some .setpoint => { settingsOf words with setpoint := setpoint? word }
      | some .dump => { settingsOf words with dumpPriority := dumpPriority? word }
      | none => settingsOf words := by
  rw [settingsOf, wordOf?_concat h, wordOf?_concat h, wordOf?_concat h, wordOf?_concat h]
  cases kind? word with
  | none => rfl
  | some k => cases k <;> rfl

theorem settingsOf_congr {words words' : List (List Char)} (h : OnePerKind words)
    (hperm : (meaningful words').Perm (meaningful words)) :
    (settingsOf words' : ZoneSettings ν) = settingsOf words := by
  simp only [settingsOf, wordOf?_congr h hperm]

/-- One more word is read, if it is the only one of its kind. -/
theorem readWord_settingsOf_iff {words : List (List Char)} {word : List Char}
    (h : OnePerKind (words ++ [word])) {text : List Char} {s : ZoneSettings ν} :
    readWord text (settingsOf words) word = .ok s ↔
      IsReadable ν word ∧ s = settingsOf (words ++ [word]) := by
  rw [readWord_eq, settingsOf_concat h, IsReadable]
  match hk : kind? word with
  | none => rw [Except.ok.injEq, true_and, eq_comm]
  | some .switch => rw [Except.ok.injEq, true_and, eq_comm]
  | some .vote => rw [Except.ok.injEq, true_and, eq_comm]
  | some .setpoint =>
      have hnone : (settingsOf words : ZoneSettings ν).setpoint.isSome = false := by
        rw [settingsOf, wordOf?_eq_none h hk]
        rfl
      rw [hnone, if_neg Bool.false_ne_true]
      exact Outcome.map_some_eq_ok_iff (fun _ => setpoint_eq_ok_iff) fun v =>
        { (settingsOf words : ZoneSettings ν) with setpoint := v }
  | some .dump =>
      exact Outcome.map_some_eq_ok_iff (fun _ => dumpPriority_eq_ok_iff) fun n =>
        { (settingsOf words : ZoneSettings ν) with dumpPriority := n }

/-- Words one of a kind are read if each of them can be, and set one field each. -/
theorem foldlM_eq_ok_iff {words : List (List Char)} (h : OnePerKind words) {text : List Char}
    {s : ZoneSettings ν} :
    words.foldlM (readWord text) {} = .ok s ↔
      (∀ w ∈ words, IsReadable ν w) ∧ s = settingsOf words := by
  -- from the end: the words before the last one leave its field as it was
  induction words using List.reverseRecOn generalizing s with
  | nil =>
      refine ⟨fun hs => ⟨fun w hw => (nomatch hw), (Except.ok.inj hs).symm⟩, ?_⟩
      rintro ⟨-, rfl⟩
      rfl
  | append_singleton words word ih =>
      have hfirst : OnePerKind words := h.of_sublist (List.sublist_append_left _ _)
      rw [List.foldlM_append, List.forall_mem_append]
      constructor
      · intro hs
        obtain ⟨s₁, hs₁, hs⟩ := Outcome.of_bind_eq_ok hs
        obtain ⟨hreadable, rfl⟩ := (ih hfirst).mp hs₁
        obtain ⟨s₂, hs₂, hs⟩ := Outcome.of_bind_eq_ok hs
        obtain ⟨hword, rfl⟩ := (readWord_settingsOf_iff h).mp hs₂
        cases hs
        exact ⟨⟨hreadable, List.forall_mem_singleton.mpr hword⟩, rfl⟩
      · rintro ⟨⟨hreadable, hword⟩, rfl⟩
        refine Outcome.bind_of_eq_ok ((ih hfirst).mpr ⟨hreadable, rfl⟩) ?_
        refine Outcome.bind_of_eq_ok ((readWord_settingsOf_iff h).mpr ⟨?_, rfl⟩) rfl
        exact hword word (List.mem_singleton_self word)

/-! ## Texts -/

/-- The words of a text, in small letters. -/
def smallWords (text : String) : List (List Char) :=
  wordsOf (Text.lowercase (Text.trim text.toList))

/-- A text makes settings if its words can be read one after the other and one is a setpoint. -/
theorem read_eq_ok {text : String} {s : ZoneSettings ν} :
    read text = .ok s ↔
      (smallWords text).foldlM (readWord (Text.lowercase (Text.trim text.toList))) {} = .ok s ∧
        s.setpoint.isSome = true := by
  rw [read, smallWords]
  constructor
  · intro h
    obtain ⟨s₁, hs₁, h⟩ := Outcome.of_bind_eq_ok h
    cases hsetpoint : s₁.setpoint with
    | none =>
        rw [hsetpoint] at h
        cases h
    | some v =>
        rw [hsetpoint] at h
        cases h
        exact ⟨hs₁, congrArg Option.isSome hsetpoint⟩
  · rintro ⟨hs, hsome⟩
    refine Outcome.bind_of_eq_ok hs ?_
    obtain ⟨v, hv⟩ := Option.isSome_iff_exists.mp hsome
    rw [hv]
    rfl

/-- What is read from a text has a setpoint, and nothing that a schedule does not say. -/
theorem sets_of_read {text : String} {s : ZoneSettings ν} (h : read text = .ok s) :
    s.setpoint.isSome = true ∧ s.hold = none ∧ s.economizer = none := by
  obtain ⟨hwords, hsome⟩ := read_eq_ok.mp h
  refine ⟨hsome, Outcome.foldlM_invariant
    (P := fun s : ZoneSettings ν => s.hold = none ∧ s.economizer = none) ?_ hwords ⟨rfl, rfl⟩⟩
  intro s₁ s₂ word _ hs₁ hword
  obtain ⟨hhold, heconomizer⟩ := readWord_keeps hword
  exact ⟨hhold.trans hs₁.1, heconomizer.trans hs₁.2⟩

/-- A text with one word of a kind makes settings if it has a setpoint and its words can be read. -/
theorem read_eq_ok_iff {text : String} (h : OnePerKind (smallWords text)) {s : ZoneSettings ν} :
    read text = .ok s ↔
      ((wordOf? .setpoint (smallWords text)).isSome = true ∧
        ∀ w ∈ smallWords text, IsReadable ν w) ∧ s = settingsOf (smallWords text) := by
  rw [read_eq_ok, foldlM_eq_ok_iff h]
  constructor
  · rintro ⟨⟨hreadable, rfl⟩, hsome⟩
    refine ⟨⟨?_, hreadable⟩, rfl⟩
    obtain ⟨v, hv⟩ := Option.isSome_iff_exists.mp hsome
    obtain ⟨w, hw, -⟩ := Option.bind_eq_some_iff.mp hv
    exact Option.isSome_iff_exists.mpr ⟨w, hw⟩
  · rintro ⟨⟨hsome, hreadable⟩, rfl⟩
    refine ⟨⟨hreadable, rfl⟩, ?_⟩
    obtain ⟨w, hw⟩ := Option.isSome_iff_exists.mp hsome
    have hword := hreadable w (List.mem_of_find?_eq_some hw)
    have hkind : kind? w = some .setpoint := by simpa using List.find?_some hw
    rw [IsReadable, hkind] at hword
    rw [settingsOf, hw]
    exact hword

end SettingsText

end HomeClimate
