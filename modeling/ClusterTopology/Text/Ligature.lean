import ClusterTopology.Text.Picture
import ClusterTopology.Text.Extending

/-!
Letters that are written as one. A text is looked at from its end, so that the
last letter of a ligature is met first and waits for those before it: it is an
ending. Marks that are not shown may stand between the letters; between Arabic
letters all marks may. A joiner may stand between any but Arabic ones, and some
join only if it does.
-/

namespace ClusterTopology.Text

/-! ### Marks between letters -/

/-- Combining marks among the Default_Ignorable_Code_Point. -/
def unseenMarkRanges : List (Nat × Nat) := [
  (0x34F, 0x34F), (0x17B4, 0x17B5), (0x180B, 0x180D), (0x180F, 0x180F), (0xFE00, 0xFE0F),
  (0xE0100, 0xE01EF)]

/-- Format characters without columns that leave Arabic letters joined. -/
def joinedFormatRanges : List (Nat × Nat) := [
  (0xAD, 0xAD), (0x61C, 0x61C), (0x70F, 0x70F), (0x200B, 0x200B), (0x200E, 0x200F),
  (0x202A, 0x202E), (0x2060, 0x2064), (0x206A, 0x206F), (0xFEFF, 0xFEFF), (0x1BCA0, 0x1BCA3),
  (0x1D173, 0x1D17A), (0xE0001, 0xE0001)]

/-- Extending characters that part Arabic letters: spacing marks, the Tifinagh joiner
and the non-joiner. -/
def partingRanges : List (Nat × Nat) := [
  (0x9BE, 0x9BE), (0x9D7, 0x9D7), (0xB3E, 0xB3E), (0xB57, 0xB57), (0xBBE, 0xBBE), (0xBD7, 0xBD7),
  (0xCC0, 0xCC0), (0xCC2, 0xCC2), (0xCC7, 0xCC8), (0xCCA, 0xCCB), (0xCD5, 0xCD6), (0xD3E, 0xD3E),
  (0xD57, 0xD57), (0xDCF, 0xDCF), (0xDDF, 0xDDF), (0x1715, 0x1715), (0x1734, 0x1734),
  (0x1B35, 0x1B35), (0x1B3B, 0x1B3B), (0x1B3D, 0x1B3D), (0x1B43, 0x1B44), (0x1BAA, 0x1BAA),
  (0x1BF2, 0x1BF3), (0x200C, 0x200C), (0x2D7F, 0x2D7F), (0x302E, 0x302F), (0xA953, 0xA953),
  (0xA9C0, 0xA9C0), (0x111C0, 0x111C0), (0x11235, 0x11235), (0x1133E, 0x1133E), (0x1134D, 0x1134D),
  (0x11357, 0x11357), (0x113B8, 0x113B8), (0x113C2, 0x113C2), (0x113C5, 0x113C5),
  (0x113C7, 0x113C9), (0x113CF, 0x113CF), (0x114B0, 0x114B0), (0x114BD, 0x114BD),
  (0x115AF, 0x115AF), (0x116B6, 0x116B6), (0x11930, 0x11930), (0x1193D, 0x1193D),
  (0x11F41, 0x11F41), (0x16FF0, 0x16FF1), (0x1D165, 0x1D166), (0x1D16D, 0x1D172)]

/-- Marks that stand between the letters of any ligature. -/
def isUnseenMark (c : Char) : Bool := inRanges unseenMarkRanges c

/-- Marks that stand between Arabic letters: Joining_Type transparent, if they take
no column. -/
def isTransparent (c : Char) : Bool :=
  inRanges joinedFormatRanges c || (inRanges extendingRanges c && !inRanges partingRanges c)

/-! ### Letters -/

/-- The Arabic letters lam. -/
def lamRanges : List (Nat × Nat) := [
  (0x644, 0x644), (0x6B5, 0x6B8), (0x76A, 0x76A), (0x8A6, 0x8A6), (0x8C7, 0x8C7)]

/-- The Arabic letters alef. -/
def alefRanges : List (Nat × Nat) := [
  (0x622, 0x623), (0x625, 0x625), (0x627, 0x627), (0x671, 0x673), (0x675, 0x675), (0x773, 0x774),
  (0x870, 0x882)]

/-- The Khmer letters that can be written below another. -/
def subscriptRanges : List (Nat × Nat) := [
  (0x1780, 0x1782), (0x1784, 0x1787), (0x1789, 0x178C), (0x178E, 0x1793), (0x1795, 0x1798),
  (0x179B, 0x179D), (0x17A0, 0x17A0), (0x17A2, 0x17A2), (0x17A7, 0x17A7), (0x17AB, 0x17AC),
  (0x17AF, 0x17AF)]

/-- The consonants of Tifinagh. -/
def tifinaghRanges : List (Nat × Nat) := [(0x2D31, 0x2D65), (0x2D6F, 0x2D6F)]

/-! ### Endings -/

/-- The last letters of ligatures, and rests of those that have three parts. -/
inductive Ending where
  /-- An alef, which is written into a lam. -/
  | alef
  /-- A Hebrew lamed, which is joined to an alef. -/
  | lamed
  /-- A Khmer letter that a sign puts below the one before it. -/
  | subscript
  /-- A Buginese ya. -/
  | ya
  /-- A Buginese ya with the vowel sign before it. -/
  | signedYa
  /-- A consonant of Tifinagh. -/
  | tifinagh
  /-- A consonant of Tifinagh with the consonant joiner before it. -/
  | joinedTifinagh
  /-- One of the last two tone letters of Lisu. -/
  | lisuTone
  /-- An Orkhon i of Old Turkic. -/
  | orkhonI
  /-- The Kirat Rai vowel e. -/
  | kiratE
  /-- The Kirat Rai vowel ai, which is e twice. -/
  | kiratAi
  deriving DecidableEq, Repr

namespace Ending

/-- The ending that a character is. -/
def ofChar? (c : Char) : Option Ending :=
  if inRanges alefRanges c then some .alef
  else if c.toNat = 0x5DC then some .lamed
  else if inRanges subscriptRanges c then some .subscript
  else if c.toNat = 0x1A10 then some .ya
  else if inRanges tifinaghRanges c then some .tifinagh
  else if c.toNat = 0xA4FC ∨ c.toNat = 0xA4FD then some .lisuTone
  else if c.toNat = 0x10C03 then some .orkhonI
  else if c.toNat = 0x16D67 then some .kiratE
  else if c.toNat = 0x16D68 then some .kiratAi
  else none

/-- Characters that may stand before an ending without parting it from its
ligature. -/
def passes : Ending → Char → Bool
  | .alef, c => isTransparent c
  | _, c => isUnseenMark c

/-- Whether a joiner may stand before an ending. -/
def takesJoiner (ending : Ending) : Bool := ending != .alef

/-- The columns that a letter adds to an ending it is written as one with, and the
ending of both. -/
def join? (ending : Ending) (joined : Bool) (c : Char) : Option (Int × Option Ending) :=
  match ending with
  | .alef => if inRanges lamRanges c then some (0, none) else none
  | .lamed => if joined ∧ c.toNat = 0x5D0 then some (0, none) else none
  | .subscript => if c.toNat = 0x17D2 then some (-1, none) else none
  | .ya => if joined ∧ c.toNat = 0x1A17 then some (0, some .signedYa) else none
  | .signedYa => if c.toNat = 0x1A15 then some (0, none) else none
  | .tifinagh =>
    if c.toNat = 0x2D7F then some (1, some .joinedTifinagh)
    else if joined ∧ inRanges tifinaghRanges c then some (0, none)
    else none
  | .joinedTifinagh => if inRanges tifinaghRanges c then some (-1, none) else none
  | .lisuTone => if 0xA4F8 ≤ c.toNat ∧ c.toNat ≤ 0xA4FB then some (0, none) else none
  | .orkhonI => if joined ∧ c.toNat = 0x10C32 then some (0, none) else none
  | .kiratE =>
    if c.toNat = 0x16D63 ∨ c.toNat = 0x16D69 then some (0, none)
    else if c.toNat = 0x16D67 then some (0, some .kiratAi)
    else if c.toNat = 0x16D68 then some (1, some .kiratE)
    else none
  | .kiratAi => if c.toNat = 0x16D63 then some (0, none) else none

end Ending

end ClusterTopology.Text
