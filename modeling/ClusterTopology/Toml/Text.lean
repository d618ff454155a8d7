import ClusterTopology.Text.Digits
import ClusterTopology.Toml.Grammar

/-!
Strings in TOML: in quotation marks with escapes, or in apostrophes without, each
on one line or, with the mark three times, on several. A line end inside is a
line feed, whichever way it is written; one just behind the opening marks does
not count.
-/

namespace ClusterTopology.Toml

/-- Characters that may stand in a comment or a string: all but the controls,
of which the tab is allowed. -/
def isPrinted (c : Char) : Bool := c == '\t' || (0x20 ≤ c.toNat && c.toNat ≠ 0x7F)

/-- The blanks inside a line. -/
def isSpace (c : Char) : Bool := c == ' ' || c == '\t'

namespace Quotation

/-- The character whose number is written in hexadecimal digits. Surrogates and
numbers beyond the last character have none. -/
def numbered? (digits : List Char) : Option Char := do
  let number ← Text.hexNumber? digits
  if number.isValidChar then some (Char.ofNat number) else none

/-- The character of a one-letter escape. -/
def letterEscape? : Char → Option Char
  | 'b' => some '\x08'
  | 't' => some '\t'
  | 'n' => some '\n'
  | 'f' => some '\x0c'
  | 'r' => some '\r'
  | '"' => some '"'
  | '\\' => some '\\'
  | _ => none

/-- Whether only blanks stand before the end of the line. -/
def endsLine (text : List Char) : Bool :=
  match text.dropWhile isSpace with
  | '\n' :: _ => true
  | '\r' :: '\n' :: _ => true
  | _ => false

/-- Text in quotation marks on one line, from behind the opening mark. What has
been read is held in reverse. -/
def basic (read : List Char) : Grammar String
  | '"' :: rest => some (String.ofList read.reverse, rest)
  | '\\' :: 'u' :: a :: b :: c :: d :: rest => do basic ((← numbered? [a, b, c, d]) :: read) rest
  | '\\' :: 'U' :: a :: b :: c :: d :: e :: f :: g :: h :: rest => do
    basic ((← numbered? [a, b, c, d, e, f, g, h]) :: read) rest
  | '\\' :: c :: rest => do basic ((← letterEscape? c) :: read) rest
  | c :: rest => if isPrinted c && c != '\\' then basic (c :: read) rest else none
  | [] => none

/-- Text in apostrophes on one line, from behind the opening mark. -/
def literal (read : List Char) : Grammar String
  | '\'' :: rest => some (String.ofList read.reverse, rest)
  | c :: rest => if isPrinted c then literal (c :: read) rest else none
  | [] => none

/-- Text in quotation marks on several lines, from behind the opening marks. Up
to two of the marks at the end belong to the text. After a backslash at the end
of a line, blanks and line ends are skipped. -/
def basicLines (skipping : Bool) (read : List Char) : Grammar String
  | '"' :: '"' :: '"' :: '"' :: '"' :: rest =>
    some (String.ofList ('"' :: '"' :: read).reverse, rest)
  | '"' :: '"' :: '"' :: '"' :: rest => some (String.ofList ('"' :: read).reverse, rest)
  | '"' :: '"' :: '"' :: rest => some (String.ofList read.reverse, rest)
  | '\r' :: '\n' :: rest => basicLines skipping (if skipping then read else '\n' :: read) rest
  | '\n' :: rest => basicLines skipping (if skipping then read else '\n' :: read) rest
  | '\\' :: 'u' :: a :: b :: c :: d :: rest => do
    basicLines false ((← numbered? [a, b, c, d]) :: read) rest
  | '\\' :: 'U' :: a :: b :: c :: d :: e :: f :: g :: h :: rest => do
    basicLines false ((← numbered? [a, b, c, d, e, f, g, h]) :: read) rest
  | '\\' :: c :: rest =>
    if endsLine (c :: rest) then basicLines true read (c :: rest)
    else do basicLines false ((← letterEscape? c) :: read) rest
  | c :: rest =>
    if skipping && isSpace c then basicLines true read rest
    else if isPrinted c && c != '\\' then basicLines false (c :: read) rest
    else none
  | [] => none

/-- Text in apostrophes on several lines, from behind the opening marks. -/
def literalLines (read : List Char) : Grammar String
  | '\'' :: '\'' :: '\'' :: '\'' :: '\'' :: rest =>
    some (String.ofList ('\'' :: '\'' :: read).reverse, rest)
  | '\'' :: '\'' :: '\'' :: '\'' :: rest => some (String.ofList ('\'' :: read).reverse, rest)
  | '\'' :: '\'' :: '\'' :: rest => some (String.ofList read.reverse, rest)
  | '\r' :: '\n' :: rest => literalLines ('\n' :: read) rest
  | '\n' :: rest => literalLines ('\n' :: read) rest
  | c :: rest => if isPrinted c then literalLines (c :: read) rest else none
  | [] => none

end Quotation

/-- Drop a line end at the front. -/
def dropLineEnd : List Char → List Char
  | '\n' :: rest => rest
  | '\r' :: '\n' :: rest => rest
  | text => text

/-- A string of any of the four forms. -/
def quotedText : Grammar String
  | '"' :: '"' :: '"' :: rest => Quotation.basicLines false [] (dropLineEnd rest)
  | '\'' :: '\'' :: '\'' :: rest => Quotation.literalLines [] (dropLineEnd rest)
  | '"' :: rest => Quotation.basic [] rest
  | '\'' :: rest => Quotation.literal [] rest
  | _ => none

/-- A string that may be a key: of the two forms on one line. -/
def quotedKey : Grammar String
  | '"' :: rest => Quotation.basic [] rest
  | '\'' :: rest => Quotation.literal [] rest
  | _ => none

end ClusterTopology.Toml
