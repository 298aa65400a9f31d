import HomeClimate.Proofs.Schedule.SettingsNumbers
import HomeClimate.Proofs.Text.SmallLetters

/-!
# Settings however they are spelled

The words of the settings can be written in many ways: with a comma or a semicolon between them,
with blanks around them or with nothing between two separators, in capitals or in small letters
(`SettingsText.Spells`).  All the ways to write some tokens make the same words
(`smallWords_of_spells`).

So if there is at most one token of each kind, what is read does not depend on how they are spelled,
in which order they come, or what else is written that says nothing (`read_tokens`).
-/

namespace HomeClimate

variable {ν : Type} [Scalar ν]

namespace SettingsText

/-! ## Words between separators -/

theorem separatesWords_of_isBlank {c : Char} (h : Text.isBlank c = true) :
    separatesWords c = false := by
  refine Bool.eq_false_iff.mpr fun hc => ?_
  rw [separatesWords, Bool.or_eq_true, decide_eq_true_eq, decide_eq_true_eq] at hc
  rcases hc with rfl | rfl
  · exact absurd h (by decide)
  · exact absurd h (by decide)

theorem separatesWords_toLower (c : Char) : separatesWords c.toLower = separatesWords c :=
  Text.eq_toLower (by decide) c

/-- At a separator a text is put together of two. -/
theorem wordsOf_append {separator : Char} (h : separatesWords separator = true)
    (cs cs' : List Char) : wordsOf (cs ++ separator :: cs') = wordsOf cs ++ wordsOf cs' := by
  simp only [wordsOf, Text.splitOn_eq_splitOnP]
  rw [List.splitOnP_append_cons cs cs' h, List.map_append, List.filter_append]

/-- Without separators a text is one word, if it is any. -/
theorem wordsOf_whole {cs : List Char} (h : ∀ c ∈ cs, separatesWords c = false) :
    wordsOf cs = [Text.trim cs].filter fun w => !w.isEmpty := by
  rw [wordsOf, Text.splitOn_eq_splitOnP, List.splitOnP_eq_singleton h, List.map_singleton]

theorem wordsOf_blanks {before after : List Char} (hbefore : Text.AreBlanks before)
    (hafter : Text.AreBlanks after) (cs : List Char) :
    wordsOf (before ++ (cs ++ after)) = wordsOf cs := by
  -- blanks belong to the last piece and to the first one, and both are trimmed
  have hend : wordsOf (cs ++ after) = wordsOf cs := by
    obtain ⟨pieces, piece, hpieces, hpieces'⟩ :=
      Text.splitOn_append (fun c hc => separatesWords_of_isBlank (hafter c hc)) cs
    have htrim : Text.trim (piece ++ after) = Text.trim piece :=
      Text.trim_blanks Text.areBlanks_nil hafter piece
    rw [wordsOf, wordsOf, hpieces, hpieces', List.map_append, List.map_append, List.map_singleton,
      List.map_singleton, htrim]
  obtain ⟨piece, pieces, hpieces, hpieces'⟩ :=
    Text.splitOn_prepend (fun c hc => separatesWords_of_isBlank (hbefore c hc)) (cs ++ after)
  have htrim : Text.trim (before ++ piece) = Text.trim piece := by
    rw [← Text.trim_blanks hbefore Text.areBlanks_nil piece, List.append_nil]
  rw [← hend, wordsOf, wordsOf, hpieces, hpieces', List.map_cons, List.map_cons, htrim]

theorem wordsOf_trim (cs : List Char) : wordsOf (Text.trim cs) = wordsOf cs := by
  obtain ⟨before, after, hbefore, hafter, hcs⟩ := Text.exists_blanks cs
  have hblanks := wordsOf_blanks hbefore hafter (Text.trim cs)
  rw [← hcs] at hblanks
  exact hblanks.symm

/-- A plain text is made small letter by letter, trimmed or not. -/
theorem smallWords_of_isPlain {text : String} (h : ∀ c ∈ text.toList, Text.IsPlain c) :
    smallWords text = wordsOf (text.toList.map Char.toLower) := by
  obtain ⟨before, after, -, -, htext⟩ := Text.exists_blanks text.toList
  have htrim : ∀ c ∈ Text.trim text.toList, Text.IsPlain c := by
    intro c hc
    refine h c ?_
    rw [htext]
    exact List.mem_append_right _ (List.mem_append_left _ hc)
  rw [smallWords, Text.lowercase_of_isPlain htrim, ← Text.trim_map_toLower, wordsOf_trim]

/-! ## Spellings -/

/-- The word that a token is read as. -/
def wordOfToken (token : List Char) : List Char := Text.trim (token.map Char.toLower)

/-- A text spells some tokens: each comes in letters of any case with blanks around it, and there
is a separator between any two, or more than one. -/
inductive Spells : List Char → List (List Char) → Prop where
  /-- Nothing, or blanks. -/
  | blank {blanks : List Char} : Text.AreBlanks blanks → Spells blanks []
  /-- A token, and blanks around it. -/
  | token {before letters after token : List Char} : Text.AreBlanks before →
      Text.AreBlanks after → letters.map Char.toLower = token.map Char.toLower →
      Spells (before ++ (letters ++ after)) [token]
  /-- Two texts with a separator between them. -/
  | join {text text' : List Char} {tokens tokens' : List (List Char)} {separator : Char} :
      separatesWords separator = true → Spells text tokens → Spells text' tokens' →
      Spells (text ++ separator :: text') (tokens ++ tokens')

/-- Tokens are ASCII texts with no separator in them, and at most one of each kind. -/
structure AreTokens (tokens : List (List Char)) : Prop where
  ascii : ∀ token ∈ tokens, ∀ c ∈ token, c.toNat < 128
  whole : ∀ token ∈ tokens, ∀ c ∈ token, separatesWords c = false
  onePerKind : OnePerKind (tokens.map wordOfToken)

instance (tokens : List (List Char)) : Decidable (AreTokens tokens) :=
  decidable_of_iff
    ((tokens.all fun t => t.all fun c => decide (c.toNat < 128)) = true ∧
      (tokens.all fun t => t.all fun c => !separatesWords c) = true ∧
      OnePerKind (tokens.map wordOfToken))
    ⟨fun h => ⟨by simpa using h.1, by simpa using h.2.1, h.2.2⟩,
      fun h => ⟨by simpa using h.ascii, by simpa using h.whole, h.onePerKind⟩⟩

theorem Spells.isPlain {text : List Char} {tokens : List (List Char)} (h : Spells text tokens)
    (hascii : ∀ token ∈ tokens, ∀ c ∈ token, c.toNat < 128) : ∀ c ∈ text, Text.IsPlain c := by
  induction h with
  | blank hblanks => exact fun c hc => .inr (hblanks c hc)
  | @token before letters after token hbefore hafter hletters =>
      intro c hc
      rcases List.mem_append.mp hc with hc | hc
      · exact .inr (hbefore c hc)
      rcases List.mem_append.mp hc with hc | hc
      · have hmem : c.toLower ∈ token.map Char.toLower := hletters ▸ List.mem_map_of_mem hc
        obtain ⟨c', hc', heq⟩ := List.mem_map.mp hmem
        exact Text.isPlain_of_toLower_eq heq.symm (hascii token (List.mem_singleton_self _) c' hc')
      · exact .inr (hafter c hc)
  | @join text text' tokens tokens' separator hseparator _ _ ih ih' =>
      obtain ⟨htokens, htokens'⟩ := List.forall_mem_append.mp hascii
      intro c hc
      rcases List.mem_append.mp hc with hc | hc
      · exact ih htokens c hc
      rcases List.mem_cons.mp hc with rfl | hc
      · rw [separatesWords, Bool.or_eq_true, decide_eq_true_eq, decide_eq_true_eq] at hseparator
        rcases hseparator with rfl | rfl
        · exact .inl (by decide)
        · exact .inl (by decide)
      · exact ih' htokens' c hc

theorem Spells.words {text : List Char} {tokens : List (List Char)} (h : Spells text tokens)
    (hwhole : ∀ token ∈ tokens, ∀ c ∈ token, separatesWords c = false) :
    wordsOf (text.map Char.toLower) = (tokens.map wordOfToken).filter fun w => !w.isEmpty := by
  induction h with
  | blank hblanks =>
      have hsmall := hblanks.map_toLower
      rw [wordsOf_whole fun c hc => separatesWords_of_isBlank (hsmall c hc),
        Text.trim_eq_nil.mpr hsmall]
      rfl
  | @token before letters after token hbefore hafter hletters =>
      have hsmall : ∀ c ∈ token.map Char.toLower, separatesWords c = false := by
        intro c hc
        obtain ⟨c', hc', rfl⟩ := List.mem_map.mp hc
        rw [separatesWords_toLower]
        exact hwhole token (List.mem_singleton_self token) c' hc'
      rw [List.map_append, List.map_append, hletters,
        wordsOf_blanks hbefore.map_toLower hafter.map_toLower, wordsOf_whole hsmall]
      rfl
  | @join text text' tokens tokens' separator hseparator _ _ ih ih' =>
      obtain ⟨htokens, htokens'⟩ := List.forall_mem_append.mp hwhole
      have hsmall : separatesWords separator.toLower = true :=
        (separatesWords_toLower separator).trans hseparator
      rw [List.map_append, List.map_cons, wordsOf_append hsmall, ih htokens, ih' htokens',
        List.map_append, List.filter_append]

theorem smallWords_of_spells {text : String} {tokens : List (List Char)} (h : AreTokens tokens)
    (htext : Spells text.toList tokens) :
    smallWords text = (tokens.map wordOfToken).filter fun w => !w.isEmpty := by
  rw [smallWords_of_isPlain (htext.isPlain h.ascii), htext.words h.whole]

/-! ## What is read -/

/-- Empty words are of no kind. -/
theorem meaningful_filter (words : List (List Char)) :
    meaningful (words.filter fun w => !w.isEmpty) = meaningful words := by
  rw [meaningful, meaningful, List.filter_filter]
  refine List.filter_congr fun w _ => ?_
  cases w with
  | nil => rfl
  | cons c w => exact Bool.and_true _

theorem forall_isReadable_iff {words : List (List Char)} :
    (∀ w ∈ words, IsReadable ν w) ↔ ∀ w ∈ meaningful words, IsReadable ν w := by
  constructor
  · exact fun h w hw => h w (List.mem_of_mem_filter hw)
  · intro h w hw
    cases hk : kind? w with
    | none =>
        rw [IsReadable, hk]
        trivial
    | some k => exact h w (List.mem_filter.mpr ⟨hw, by rw [hk]; rfl⟩)

/-- What is read from a spelling of some tokens is a matter of their words. -/
theorem read_eq_ok_iff_of_spells {text : String} {tokens : List (List Char)}
    (h : AreTokens tokens) (htext : Spells text.toList tokens) {s : ZoneSettings ν} :
    read text = .ok s ↔
      ((wordOf? .setpoint (tokens.map wordOfToken)).isSome = true ∧
        ∀ w ∈ meaningful (tokens.map wordOfToken), IsReadable ν w) ∧
      s = settingsOf (tokens.map wordOfToken) := by
  have hwords := smallWords_of_spells h htext
  have honce : OnePerKind (smallWords text) := by
    rw [hwords]
    exact h.onePerKind.of_sublist List.filter_sublist
  have hperm : (meaningful (smallWords text)).Perm (meaningful (tokens.map wordOfToken)) := by
    rw [hwords, meaningful_filter]
  rw [read_eq_ok_iff honce, forall_isReadable_iff, wordOf?_congr h.onePerKind hperm,
    settingsOf_congr h.onePerKind hperm, hwords, meaningful_filter]

theorem succeeds_read_iff {text : String} {tokens : List (List Char)} (h : AreTokens tokens)
    (htext : Spells text.toList tokens) :
    Outcome.Succeeds (read text : Except (ScheduleError ν) (ZoneSettings ν)) ↔
      (∃ t ∈ tokens, kind? (wordOfToken t) = some .setpoint ∧ HasNumber (wordOfToken t)) ∧
      ∀ t ∈ tokens, kind? (wordOfToken t) = some .dump → HasInteger32 (wordOfToken t) := by
  have hwords : Outcome.Succeeds (read text : Except (ScheduleError ν) (ZoneSettings ν)) ↔
      (wordOf? .setpoint (tokens.map wordOfToken)).isSome = true ∧
        ∀ w ∈ tokens.map wordOfToken, IsReadable ν w := by
    rw [forall_isReadable_iff]
    constructor
    · rintro ⟨s, hs⟩
      exact ((read_eq_ok_iff_of_spells h htext).mp hs).1
    · exact fun hall => ⟨_, (read_eq_ok_iff_of_spells h htext).mpr ⟨hall, rfl⟩⟩
  rw [hwords, wordOf?, List.find?_isSome]
  constructor
  · rintro ⟨⟨w, hw, hkind⟩, hreadable⟩
    obtain ⟨t, ht, rfl⟩ := List.mem_map.mp hw
    have hkind := of_decide_eq_true hkind
    refine ⟨⟨t, ht, hkind, (isReadable_iff.mp (hreadable _ hw)).1 hkind⟩, fun t' ht' => ?_⟩
    exact (isReadable_iff.mp (hreadable _ (List.mem_map_of_mem ht'))).2
  · rintro ⟨⟨t, ht, hkind, hnumber⟩, hdump⟩
    have hw : wordOfToken t ∈ tokens.map wordOfToken := List.mem_map_of_mem ht
    refine ⟨⟨_, hw, decide_eq_true hkind⟩, fun w' hw' => isReadable_iff.mpr ⟨fun hkind' => ?_, ?_⟩⟩
    · rw [h.onePerKind.eq hw' hw hkind' hkind]
      exact hnumber
    · obtain ⟨t', ht', rfl⟩ := List.mem_map.mp hw'
      exact hdump t' ht'

/-- If there is at most one token of each kind, what is read is the same however the tokens are
spelled, in which order they come and what else there is that says nothing.  Something is read
exactly if there is a setpoint with a number in its second piece, and a whole number in the dump
priority if there is one. -/
theorem read_tokens {tokens : List (List Char)} (h : AreTokens tokens) {text : String}
    (htext : Spells text.toList tokens) :
    (Outcome.Succeeds (read text : Except (ScheduleError ν) (ZoneSettings ν)) ↔
      (∃ t ∈ tokens, kind? (wordOfToken t) = some .setpoint ∧ HasNumber (wordOfToken t)) ∧
      ∀ t ∈ tokens, kind? (wordOfToken t) = some .dump → HasInteger32 (wordOfToken t)) ∧
    ∀ (tokens' : List (List Char)) (text' : String), AreTokens tokens' →
      Spells text'.toList tokens' →
      (meaningful (tokens'.map wordOfToken)).Perm (meaningful (tokens.map wordOfToken)) →
      (read text' : Except (ScheduleError ν) (ZoneSettings ν)).toOption = (read text).toOption := by
  refine ⟨succeeds_read_iff h htext, fun tokens' text' h' htext' hperm => Option.ext fun s => ?_⟩
  have hmem : ∀ w, w ∈ meaningful (tokens'.map wordOfToken) ↔
      w ∈ meaningful (tokens.map wordOfToken) := fun w => hperm.mem_iff
  rw [Outcome.toOption_eq_some_iff, Outcome.toOption_eq_some_iff,
    read_eq_ok_iff_of_spells h' htext', read_eq_ok_iff_of_spells h htext,
    wordOf?_congr h.onePerKind hperm, settingsOf_congr h.onePerKind hperm]
  simp only [hmem]

/-- A setpoint and a switch, and the same the other way round with other letters, another separator,
an empty place and a word that says nothing. -/
theorem read_tokens_of_party :
    let tokens := ["setpoint 18".toList, "off".toList]
    let tokens' := ["OFF".toList, "party".toList, "setpoint 18".toList]
    let text := " Off;; party ,SETPOINT 18"
    AreTokens tokens ∧ AreTokens tokens' ∧
      Spells "setpoint 18,off".toList tokens ∧ Spells text.toList tokens' ∧
      Outcome.Succeeds (read "setpoint 18,off" : Except (ScheduleError Rat) (ZoneSettings Rat)) ∧
      (read text : Except (ScheduleError Rat) (ZoneSettings Rat)).toOption =
        (read "setpoint 18,off").toOption := by
  intro tokens tokens' text
  have htokens : AreTokens tokens := by decide +kernel
  have htokens' : AreTokens tokens' := by decide +kernel
  have hnone := Text.areBlanks_nil
  have hspace : Text.AreBlanks [' '] := List.forall_mem_singleton.mpr rfl
  have hspells : Spells "setpoint 18,off".toList tokens := by
    have hjoin : Spells (([] ++ ("setpoint 18".toList ++ [])) ++ ',' :: ([] ++ ("off".toList ++ [])))
        (["setpoint 18".toList] ++ ["off".toList]) :=
      .join rfl (.token hnone hnone rfl) (.token hnone hnone rfl)
    exact hjoin
  have hspells' : Spells text.toList tokens' := by
    have hparty : Spells (([' '] ++ ("party".toList ++ [' '])) ++
        ',' :: ([] ++ ("SETPOINT 18".toList ++ []))) (["party".toList] ++ ["setpoint 18".toList]) :=
      .join rfl (.token hspace hspace rfl) (.token hnone hnone (by decide +kernel))
    have htext : text.toList = ([' '] ++ ("Off".toList ++ [])) ++ ';' :: ([] ++ ';' ::
        (([' '] ++ ("party".toList ++ [' '])) ++ ',' :: ([] ++ ("SETPOINT 18".toList ++ [])))) := by
      decide +kernel
    have htokens : tokens' =
        ["OFF".toList] ++ ([] ++ (["party".toList] ++ ["setpoint 18".toList])) := rfl
    rw [htext, htokens]
    exact .join rfl (.token hspace hnone (by decide +kernel)) (.join rfl (.blank hnone) hparty)
  obtain ⟨hsucceeds, hsame⟩ := read_tokens (ν := Rat) htokens hspells
  refine ⟨htokens, htokens', hspells, hspells', hsucceeds.mpr ⟨?_, ?_⟩,
    hsame tokens' text htokens' hspells' ?_⟩
  · have hwritten : Decimal.IsWritten "18".toList :=
      (Decimal.isWritten_digits (List.all_eq_true.mp (by decide +kernel))).mpr (by decide +kernel)
    have hnumber : HasNumber (wordOfToken "setpoint 18".toList) := by
      refine ⟨"setpoint".toList, "18".toList, [], by decide +kernel, [], "18".toList, [], rfl,
        .inl rfl, hwritten, fun c hc => nomatch hc⟩
    exact ⟨_, List.mem_cons_self, by decide +kernel, hnumber⟩
  · have hdump : ∀ t ∈ tokens, kind? (wordOfToken t) ≠ some .dump := by decide +kernel
    exact fun t ht hk => absurd hk (hdump t ht)
  · decide +kernel

end SettingsText

end HomeClimate
