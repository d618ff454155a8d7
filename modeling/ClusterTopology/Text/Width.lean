import ClusterTopology.Text.Wide
import ClusterTopology.Text.Picture
import ClusterTopology.Text.Ligature

/-!
How many columns a text takes on a display: those of its characters
(`charWidth`), but for what is shown as one. A carriage return with its line feed
takes one column, letters that are written as one take what their ligature takes
(`Ending`), and pictures that are joined, toned, tagged or selected take two. A
text is measured from its end, and each character is given what follows it. A
character may take back columns that were counted for what follows.
-/

namespace ClusterTopology.Text

/-! ### What follows a character -/

/-- The start of a text, as far as the columns of a character before it depend on
it. -/
inductive Sequel where
  /-- Nothing that matters. -/
  | plain
  | lineFeed
  /-- The last letters of a ligature. Whether a joiner stands before them. -/
  | ligature (ending : Ending) (joined : Bool)
  | picture
  | tone
  /-- So many letters of flags. -/
  | flagLetters (count : Nat)
  /-- A joiner with a picture after it. -/
  | joinedPicture
  /-- A keycap, joined to a picture after it. -/
  | joinedKeycap
  /-- So many letters of flags, joined to a picture after them. -/
  | joinedFlagLetters (count : Nat)
  /-- So many tag letters with the tag end after them, joined to a picture. -/
  | tagLetters (count : Nat)
  /-- So many tag digits before tag letters. -/
  | tagDigits (count : Nat)
  deriving DecidableEq, Repr

namespace Sequel

/-- The sequel that a character is by itself. -/
def ofChar (c : Char) : Sequel :=
  if isTone c then .tone
  else if isFlagLetter c then .flagLetters 1
  else if isPicture c then .picture
  else match Ending.ofChar? c with
    | some ending => .ligature ending false
    | none => .plain

/-- What a selector leaves of the sequel after it. Ligatures go on over it; what is
joined to a picture can itself be selected as one. -/
def behind (selector : Selector) : Sequel → Sequel
  | .ligature ending joined => .ligature ending joined
  | .joinedPicture => if selector = .picture then .joinedPicture else .plain
  | .joinedKeycap => if selector = .picture then .joinedKeycap else .plain
  | _ => .plain

/-- The columns that a character adds to a sequel it is shown as one with, and the
sequel of both. A flag that is joined to a picture takes none of its own: its
second letter gives back the column of the first, and a third starts anew. -/
def join? : Sequel → Char → Option (Int × Sequel)
  | .plain, _ | .lineFeed, _ | .joinedKeycap, _ => none
  | .ligature ending joined, c =>
    if ending.takesJoiner && isJoiner c then some (0, .ligature ending true)
    else if ending.passes c then some (0, .ligature ending joined)
    else match ending.join? joined c with
      | some (columns, some ending) => some (columns, .ligature ending false)
      | some (columns, none) => some (columns, .plain)
      | none => none
  | .picture, c => if isJoiner c then some (0, .joinedPicture) else none
  | .tone, c =>
    if takesTone c then some (0, .picture)
    else if isJoiner c then some (0, .joinedPicture)
    else none
  | .flagLetters count, c =>
    if isFlagLetter c then some (1, .flagLetters (count + 1))
    else if isJoiner c && 2 ≤ count then some (0, .joinedPicture)
    else none
  | .joinedPicture, c =>
    if isPicture c then some (0, .picture)
    else if isTone c then some (0, .tone)
    else if isFlagLetter c then some (1, .joinedFlagLetters 1)
    else if isKeycap c then some (0, .joinedKeycap)
    else if isTagEnd c then some (0, .tagLetters 0)
    else none
  | .joinedFlagLetters count, c =>
    if isFlagLetter c then
      some (if count % 2 = 1 then -1 else 3, .joinedFlagLetters (count + 1))
    else if isJoiner c && 2 ≤ count then some (0, .joinedPicture)
    else none
  | .tagLetters count, c =>
    if isTagLetter c && count < 6 then some (0, .tagLetters (count + 1))
    else if isTagDigit c && count < 5 then some (0, .tagDigits 1)
    else if isTaggedFlag c && 3 ≤ count then some (0, .picture)
    else none
  | .tagDigits count, c =>
    if isTagDigit c && count < 3 then some (0, .tagDigits (count + 1))
    else if isTaggedFlag c && count = 3 then some (0, .picture)
    else none

end Sequel

/-- What follows a character: a selector, if one is next, and what is after it. -/
structure Following where
  sequel : Sequel
  selector? : Option Selector := none
  deriving DecidableEq, Repr

/-! ### Columns -/

/-- The columns of a character given what follows it, and what then follows the
character before it. -/
def widthBefore (c : Char) (following : Following) : Int × Following :=
  if following.selector? = some .picture ∧ hasTwoForms c then
    (if following.sequel = .joinedPicture ∨ following.sequel = .joinedKeycap then 0 else 2,
      { sequel := .picture })
  else if c = '\n' then (1, { sequel := .lineFeed })
  else if c = '\r' ∧ following.sequel = .lineFeed then (0, { sequel := .plain })
  else if c.toNat ≤ 0xA0 then (1, { sequel := .plain })
  else if following.selector? = some .text ∧ isNarrowAsText c then (1, { sequel := .plain })
  else if following.selector? = some .wideQuotation ∧ isQuotationMark c then
    (2, { sequel := .plain })
  else
    let sequel := match following.selector? with
      | some _ => following.sequel.behind .text
      | none => following.sequel
    match Selector.ofChar? c with
    | some selector => (0, { sequel := sequel.behind selector, selector? := some selector })
    | none => match sequel.join? c with
      | some (columns, both) => (columns, { sequel := both })
      | none => (charWidth c, { sequel := .ofChar c })

/-- The columns of a text, and what it is to a character before it. -/
def measure (text : List Char) : Int × Following :=
  text.foldr
    (fun c (columns, following) =>
      let (own, both) := widthBefore c following
      (own + columns, both))
    (0, { sequel := .plain })

/-- The columns of a text. -/
def displayWidth (text : List Char) : Nat := (measure text).1.toNat

end ClusterTopology.Text
