/-!
Blank characters and trimming. A character is blank when it has the White_Space
property; this is wider than the blanks of `Char.isWhitespace` and takes in the
no-break space, the line and paragraph separators and the ideographic space, but
not the zero-width space and not the byte order mark.
-/

namespace ClusterTopology.Text

/-- The White_Space property, all of its twenty-five code points. -/
def isBlank (c : Char) : Bool :=
  let n := c.toNat
  (9 ≤ n && n ≤ 13) || n == 0x20 || n == 0x85 || n == 0xA0 || n == 0x1680 ||
    (0x2000 ≤ n && n ≤ 0x200A) || n == 0x2028 || n == 0x2029 || n == 0x202F ||
    n == 0x205F || n == 0x3000

/-- Drop the blanks at the front. -/
def trimStart (text : List Char) : List Char := text.dropWhile isBlank

/-- Drop the blanks at the back. -/
def trimEnd (text : List Char) : List Char := (trimStart text.reverse).reverse

/-- Drop the blanks at both ends; blanks inside stay. -/
def trim (text : List Char) : List Char := trimEnd (trimStart text)

section Padding

variable {front back : List Char}

theorem trimStart_append (blank : ∀ c ∈ front, isBlank c = true) (text : List Char) :
    trimStart (front ++ text) = trimStart text :=
  List.dropWhile_append_of_pos blank

theorem trimStart_eq_nil (blank : ∀ c ∈ back, isBlank c = true) : trimStart back = [] := by
  rw [← List.append_nil back]
  exact trimStart_append blank []

theorem trimEnd_append (blank : ∀ c ∈ back, isBlank c = true) (text : List Char) :
    trimEnd (text ++ back) = trimEnd text := by
  rw [trimEnd, List.reverse_append, trimStart_append, trimEnd]
  exact fun c member => blank c (List.mem_reverse.mp member)

/-- More blanks around a text do not matter. -/
theorem trim_append (before : ∀ c ∈ front, isBlank c = true)
    (after : ∀ c ∈ back, isBlank c = true) (text : List Char) :
    trim (front ++ text ++ back) = trim text := by
  have split : trimStart (text ++ back) =
      if (trimStart text).isEmpty then trimStart back else trimStart text ++ back :=
    List.dropWhile_append
  rw [trim, List.append_assoc, trimStart_append before, split, trim]
  split
  · rename_i nothing
    rw [trimStart_eq_nil after, List.isEmpty_iff.mp nothing]
  · exact trimEnd_append after _

end Padding

end ClusterTopology.Text
