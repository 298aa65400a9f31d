import HomeClimate.Text.LetterTables

/-!
# Small letters

`lowercase` replaces every capital letter of a text by its small letter.  Two
letters are not replaced by a fixed one.

* The dotted capital I becomes a small i and a dot above it.
* The capital sigma becomes the final small sigma at the end of a word: a
  character with case comes before it and none after it, where characters that
  are passed over do not count.
-/

namespace HomeClimate.Text

/-- The capital sigma. -/
def capitalSigma : Char := 'Σ'

/-- The small letter of one character, outside of any text. -/
def smallLetter (c : Char) : Char :=
  let n := c.toNat
  if n < 128 then c.toLower
  else
    match capitalRuns.find? fun r => r.first ≤ n && n ≤ r.last && (n - r.first) % r.step == 0 with
    | some r => Char.ofNat ((n : Int) + r.shift).toNat
    | none => c

/-- Whether a word goes on: the first character that counts has case. -/
def startsCased : List Char → Bool
  | [] => false
  | c :: cs =>
    if inRanges passedOverRanges c.toNat then startsCased cs else inRanges casedRanges c.toNat

/-- The small letters of a text, after the text given in reverse. -/
def lowercaseAfter (before : List Char) : List Char → List Char
  | [] => []
  | c :: cs =>
    let small :=
      if c = capitalSigma then
        if startsCased before && !startsCased cs then ['ς'] else ['σ']
      else if c = 'İ' then ['i', Char.ofNat 0x307]
      else [smallLetter c]
    small ++ lowercaseAfter (c :: before) cs

/-- A text in small letters. -/
def lowercase (cs : List Char) : List Char := lowercaseAfter [] cs

end HomeClimate.Text
