import ClusterTopology.Json.Fault
import ClusterTopology.Text.Digits

/-!
Strings in JSON text, from behind the opening quotation mark to behind the
closing one. An escape of four hexadecimal digits stands for one code unit; a
leading surrogate has to be followed at once by the escape of a trailing one,
and the pair stands for one character. `body_shorter` says that reading a
string makes the text shorter.
-/

namespace ClusterTopology.Json.Quotation

open ClusterTopology.Text (byteCount)

/-- Four hexadecimal digits. The next four bytes are taken for them, whatever
characters these bytes belong to. -/
def codeUnit (text : List Char) : Except Fault (Nat × List Char) :=
  if byteCount (text.take 4) < 4 then .error (.behind .unfinishedString [])
  else if (text.take 4).length = 4 ∧ (text.take 4).all Text.isHexDigit then
    .ok (Text.numberOf 16 (text.take 4), text.drop 4)
  else .error ⟨.invalidEscape, text, 4⟩

/-- A code unit that begins a surrogate pair. -/
def isLeading (unit : Nat) : Bool := 0xD800 ≤ unit && unit ≤ 0xDBFF

/-- A code unit that ends a surrogate pair. -/
def isTrailing (unit : Nat) : Bool := 0xDC00 ≤ unit && unit ≤ 0xDFFF

/-- The character of a surrogate pair. -/
def paired (leading trailing : Nat) : Char :=
  Char.ofNat (0x10000 + (leading - 0xD800) * 0x400 + (trailing - 0xDC00))

/-- What follows a leading surrogate. -/
def trailingUnit (leading : Nat) : List Char → Except Fault (Char × List Char)
  | [] => .error (.behind .unfinishedString [])
  | '\\' :: [] => .error (.behind .unfinishedString [])
  | '\\' :: 'u' :: rest =>
    match codeUnit rest with
    | .error fault => .error fault
    | .ok (trailing, left) =>
      if isTrailing trailing then .ok (paired leading trailing, left)
      else .error (.behind .loneSurrogate left)
  | '\\' :: rest => .error (.next .unfinishedSurrogatePair rest)
  | rest => .error (.next .unfinishedSurrogatePair rest)

/-- The character of a numeric escape, from behind its mark. -/
def numericEscape (text : List Char) : Except Fault (Char × List Char) :=
  match codeUnit text with
  | .error fault => .error fault
  | .ok (unit, left) =>
    if isTrailing unit then .error (.behind .loneSurrogate left)
    else if isLeading unit then trailingUnit unit left
    else .ok (Char.ofNat unit, left)

/-- The character of a one-letter escape. -/
def letterEscape? : Char → Option Char
  | '"' => some '"'
  | '\\' => some '\\'
  | '/' => some '/'
  | 'b' => some '\x08'
  | 'f' => some '\x0c'
  | 'n' => some '\n'
  | 'r' => some '\r'
  | 't' => some '\t'
  | _ => none

/-- The character of an escape, from behind the backslash. -/
def escape : List Char → Except Fault (Char × List Char)
  | [] => .error (.behind .unfinishedString [])
  | c :: rest =>
    if c = 'u' then numericEscape rest
    else match letterEscape? c with
      | some meant => .ok (meant, rest)
      | none => .error (.next .invalidEscape (c :: rest))

variable {text left : List Char} {c : Char}

theorem codeUnit_length_le {unit : Nat} (read : codeUnit text = .ok (unit, left)) :
    left.length ≤ text.length := by
  unfold codeUnit at read
  split at read
  · simp at read
  · split at read
    · simp at read; simp [← read.2]
    · simp at read

theorem trailingUnit_length_le {leading : Nat} (read : trailingUnit leading text = .ok (c, left)) :
    left.length ≤ text.length := by
  unfold trailingUnit at read
  split at read
  · simp at read
  · simp at read
  · split at read
    · simp at read
    · rename_i found
      have := codeUnit_length_le found
      split at read
      · simp at read; simp [← read.2]; omega
      · simp at read
  · simp at read
  · simp at read

theorem escape_shorter (read : escape text = .ok (c, left)) : left.length < text.length := by
  unfold escape at read
  split at read
  · simp at read
  · split at read
    · unfold numericEscape at read
      split at read
      · simp at read
      · rename_i found
        have := codeUnit_length_le found
        split at read
        · simp at read
        · split at read
          · have := trailingUnit_length_le read; simp; omega
          · simp at read; simp [← read.2]; omega
    · split at read
      · simp at read; simp [← read.2]
      · simp at read

/-- The characters up to the closing quotation mark, after those already read,
which are held in reverse. Control characters below U+0020 have to be
escaped. -/
def body (read : List Char) : List Char → Except Fault (String × List Char)
  | [] => .error (.behind .unfinishedString [])
  | c :: rest =>
    if c = '"' then .ok (String.ofList read.reverse, rest)
    else if c = '\\' then
      match step : escape rest with
      | .error fault => .error fault
      | .ok (meant, left) =>
        have := escape_shorter step
        body (meant :: read) left
    else if c.toNat < 32 then .error (.behind .controlCharacter rest)
    else body (c :: read) rest
termination_by text => text.length
decreasing_by all_goals simp; try omega

theorem body_shorter {read : List Char} {value : String}
    (done : body read text = .ok (value, left)) : left.length < text.length := by
  fun_induction body read text with
  | case1 => simp at done
  | case2 => simp at done; simp [← done.2]
  | case3 => simp at done
  | case4 =>
    rename_i step ih
    have := ih done
    simp; omega
  | case5 => simp at done
  | case6 =>
    rename_i ih
    have := ih done
    simp; omega

end ClusterTopology.Json.Quotation
