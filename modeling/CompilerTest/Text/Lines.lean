import CompilerTest.Text.Bytes

/-!
# Lines and blanks of texts

Text is cut at more separators than byte strings are: besides line feed and carriage return also
vertical tab, form feed, the three larger information separators, the next-line control and the
line and paragraph separators.
-/

namespace CompilerTest.Text

/-- Whether `c` ends a line. -/
def isLineEnd (c : Char) : Bool :=
  let n := c.toNat
  (0xa ≤ n && n ≤ 0xd) || (0x1c ≤ n && n ≤ 0x1e) || n == 0x85 || n == 0x2028 || n == 0x2029

/-- Cuts characters into lines without their terminators; `line` holds the current line in
reverse. -/
def linesFrom (line : List Char) : List Char → List (List Char)
  | [] => if line.isEmpty then [] else [line.reverse]
  | '\r' :: '\n' :: rest => line.reverse :: linesFrom [] rest
  | c :: rest =>
    if isLineEnd c then line.reverse :: linesFrom [] rest else linesFrom (c :: line) rest

/-- The lines of a text, without their terminators. A terminator at the end opens no empty line. -/
def lines (text : String) : List String := (linesFrom [] text.toList).map String.ofList

/-- Joins lines with line feeds. -/
def unlines (lines : List String) : String := String.intercalate "\n" lines

/-- The text without the white space at both ends. -/
def strip (text : String) : String :=
  let blank (c : Char) : Bool := Unicode.isSpace c.toNat
  String.ofList ((text.toList.dropWhile blank).reverse.dropWhile blank).reverse

/-- The text without the line feeds at its end. -/
def trimLineFeeds (text : String) : String :=
  String.ofList (text.toList.reverse.dropWhile (· == '\n')).reverse

/-- Replaces every carriage return, with the line feed after it if there is one, by a line feed. -/
def unifyLineEnds : List Char → List Char
  | [] => []
  | '\r' :: '\n' :: rest => '\n' :: unifyLineEnds rest
  | '\r' :: rest => '\n' :: unifyLineEnds rest
  | c :: rest => c :: unifyLineEnds rest

/-- Whether `needle` stands somewhere in `text`. -/
def occursIn (needle : List Char) : List Char → Bool
  | [] => needle.isEmpty
  | c :: rest => needle.isPrefixOf (c :: rest) || occursIn needle rest

end CompilerTest.Text
