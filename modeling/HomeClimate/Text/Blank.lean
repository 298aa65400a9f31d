/-!
# Blanks

A blank is a character with the white space property: the ASCII blanks, the next
line mark, the no-break space and the blanks of the general punctuation block.
`trim` cuts blanks at both ends of a text, `splitOn` cuts a text at separators.
-/

namespace HomeClimate.Text

/-- The white space characters. -/
def isBlank (c : Char) : Bool :=
  let n := c.toNat
  (9 ≤ n && n ≤ 13) || n == 32 || n == 0x85 || n == 0xA0 || n == 0x1680 ||
    (0x2000 ≤ n && n ≤ 0x200A) || n == 0x2028 || n == 0x2029 || n == 0x202F || n == 0x205F ||
    n == 0x3000

/-- A text without the blanks at its front. -/
def trimStart (cs : List Char) : List Char := cs.dropWhile isBlank

/-- A text without the blanks at its end. -/
def trimEnd (cs : List Char) : List Char := (cs.reverse.dropWhile isBlank).reverse

/-- A text without the blanks at either end. -/
def trim (cs : List Char) : List Char := trimEnd (trimStart cs)

/-- A text without the blanks at either end. -/
def trimText (s : String) : String := String.ofList (trim s.toList)

/-- Whether a text holds blanks only. -/
def isBlankText (s : String) : Bool := s.toList.all isBlank

/-- The pieces between separators, empty ones included. -/
def splitOn (separates : Char → Bool) : List Char → List (List Char)
  | [] => [[]]
  | c :: cs =>
    match splitOn separates cs with
    | [] => [[c]]
    | piece :: pieces => if separates c then [] :: piece :: pieces else (c :: piece) :: pieces

/-- The pieces between separators that hold something. -/
def words (separates : Char → Bool) (cs : List Char) : List (List Char) :=
  (splitOn separates cs).filter (fun w => !w.isEmpty)

/-- The text before the first character that satisfies a test, and the text after it. -/
def cutAt? (test : Char → Bool) : List Char → Option (List Char × List Char)
  | [] => none
  | c :: cs =>
    if test c then some ([], cs)
    else (cutAt? test cs).map fun (before, after) => (c :: before, after)

/-- A line without the carriage return before its line feed. -/
def dropReturn (line : List Char) : List Char :=
  if line.getLast? = some '\r' then line.dropLast else line

/-- The lines of a text.  Each line feed ends a line, and what follows the last one is a line
unless it is empty. -/
def lines (cs : List Char) : List (List Char) :=
  let pieces := splitOn (· == '\n') cs
  let last := pieces.getLast?.getD []
  pieces.dropLast.map dropReturn ++ (if last.isEmpty then [] else [last])

end HomeClimate.Text
