import ClusterTopology.Text.Ranges
import ClusterTopology.Text.Unprintable
import ClusterTopology.Text.Extending

/-!
Text between quotation marks as diagnostics show it: everything that cannot be
seen, and everything that would blend with its neighbour, is escaped. The
apostrophe is not escaped.
-/

namespace ClusterTopology.Text

/-- The characters that are shown by their number. The ASCII characters from the
space to the tilde are not among them. -/
def isHidden (c : Char) : Bool :=
  if 0x20 ≤ c.toNat && c.toNat < 0x7F then false
  else inRanges extendingRanges c || inRanges unprintableRanges c

/-- A character of a quoted text. -/
def shown (c : Char) : List Char :=
  match c with
  | '\x00' => ['\\', '0']
  | '\t' => ['\\', 't']
  | '\r' => ['\\', 'r']
  | '\n' => ['\\', 'n']
  | '\\' => ['\\', '\\']
  | '"' => ['\\', '"']
  | c => if isHidden c then '\\' :: 'u' :: '\x7b' :: (Nat.toDigits 16 c.toNat ++ ['\x7d']) else [c]

/-- A text between quotation marks. -/
def quoted (text : String) : String :=
  String.ofList ('"' :: (text.toList.flatMap shown ++ ['"']))

end ClusterTopology.Text
