import ClusterTopology.Json.Numeral
import ClusterTopology.Json.Quotation

/-!
Reading JSON text. A `Reader` takes a value from the front of the text and
leaves a shorter rest; lists and objects are read by handing the reader of their
parts to a loop over the text. Nesting is part of the reader: `value n` admits
`n` levels of lists and objects, and a text is read with `greatestNesting` of
them. The first fault in text order is the one reported.
-/

namespace ClusterTopology.Json

/-- The outcome of reading from the front of a text. -/
abbrev Reading (α : Type) := Except Fault (α × List Char)

/-- A reader that consumes at least one character whenever it succeeds. -/
structure Reader (α : Type) where
  read : List Char → Reading α
  shortens : ∀ {text value left}, read text = .ok (value, left) → left.length < text.length

/-- The four blanks allowed between the parts of a text. -/
def isSpace (c : Char) : Bool := c == ' ' || c == '\t' || c == '\n' || c == '\r'

/-- The text from its first character that is not a blank. -/
def skipSpace (text : List Char) : List Char := text.dropWhile isSpace

theorem skipSpace_length_le (text : List Char) : (skipSpace text).length ≤ text.length :=
  (List.dropWhile_sublist _).length_le

theorem length_lt_of_skipSpace {text rest : List Char} {c : Char}
    (skipped : skipSpace text = c :: rest) : rest.length < text.length := by
  have := skipSpace_length_le text
  rw [skipped] at this
  simp at this
  omega

/-- The rest of a literal, after its first letter. -/
def literal (value : Json) : (expected : List Char) → List Char → Reading Json
  | [], text => .ok (value, text)
  | _ :: _, [] => .error (.behind .unfinishedValue [])
  | e :: expected, c :: rest =>
    if c = e then literal value expected rest else .error (.next .expectedLiteral (c :: rest))

/-- A number from its first digit on. A number out of range is blamed on its
end. -/
def numeral (negative : Bool) (text : List Char) : Reading Json :=
  match Numeral.unsigned negative text with
  | .error fault => .error fault
  | .ok (written, left) =>
    match written.value? with
    | some value => .ok (.number value, left)
    | none => .error (.behind .numberOutOfRange left)

/-- The items of a list after one of them, up to the closing bracket. The items
already read are held in reverse. -/
def moreItems (item : Reader Json) (done : List Json) (text : List Char) : Reading (List Json) :=
  match _ : skipSpace text with
  | [] => .error (.behind .unfinishedList [])
  | c :: rest =>
    if c = ']' then .ok (done.reverse, rest)
    else if c = ',' then
      match _ : skipSpace rest with
      | [] => .error (.behind .unfinishedValue [])
      | d :: after =>
        if d = ']' then .error (.next .trailingComma (d :: after))
        else match _ : item.read (d :: after) with
          | .error fault => .error fault
          | .ok (value, left) => moreItems item (value :: done) left
    else .error (.next .expectedListCommaOrEnd (c :: rest))
termination_by text.length
decreasing_by
  have := item.shortens ‹item.read _ = _›
  have := length_lt_of_skipSpace ‹skipSpace rest = _›
  have := length_lt_of_skipSpace ‹skipSpace text = _›
  simp at *
  omega

/-- A list after its opening bracket. -/
def items (item : Reader Json) (text : List Char) : Reading (List Json) :=
  match skipSpace text with
  | [] => .error (.behind .unfinishedList [])
  | c :: rest =>
    if c = ']' then .ok ([], rest)
    else match item.read (c :: rest) with
      | .error fault => .error fault
      | .ok (value, left) => moreItems item [value] left

/-- A member of an object after the opening quotation mark of its name. -/
def member (item : Reader Json) (text : List Char) : Reading (String × Json) :=
  match Quotation.body [] text with
  | .error fault => .error fault
  | .ok (name, left) =>
    match skipSpace left with
    | [] => .error (.behind .unfinishedObject [])
    | c :: rest =>
      if c = ':' then
        match item.read rest with
        | .error fault => .error fault
        | .ok (value, left) => .ok ((name, value), left)
      else .error (.next .expectedColon (c :: rest))

theorem member_shorter {item : Reader Json} {text left : List Char} {value : String × Json}
    (read : member item text = .ok (value, left)) : left.length < text.length := by
  unfold member at read
  split at read
  · simp at read
  · rename_i named
    have := Quotation.body_shorter named
    split at read
    · simp at read
    · rename_i skipped
      split at read
      · split at read
        · simp at read
        · rename_i step
          have := item.shortens step
          have := length_lt_of_skipSpace skipped
          simp at read
          rw [← read.2]
          omega
      · simp at read

/-- The members of an object after one of them, up to the closing brace. -/
def moreMembers (item : Reader Json) (done : Members) (text : List Char) : Reading Members :=
  match _ : skipSpace text with
  | [] => .error (.behind .unfinishedObject [])
  | c :: rest =>
    if c = '\x7d' then .ok (done, rest)
    else if c = ',' then
      match _ : skipSpace rest with
      | [] => .error (.behind .unfinishedValue [])
      | d :: after =>
        if d = '\x7d' then .error (.next .trailingComma (d :: after))
        else if d = '"' then
          match _ : member item after with
          | .error fault => .error fault
          | .ok ((name, value), left) => moreMembers item (done.put name value) left
        else .error (.next .keyNotString (d :: after))
    else .error (.next .expectedObjectCommaOrEnd (c :: rest))
termination_by text.length
decreasing_by
  have := member_shorter ‹member item _ = _›
  have := length_lt_of_skipSpace ‹skipSpace rest = _›
  have := length_lt_of_skipSpace ‹skipSpace text = _›
  omega

/-- An object after its opening brace. -/
def members (item : Reader Json) (text : List Char) : Reading Members :=
  match skipSpace text with
  | [] => .error (.behind .unfinishedObject [])
  | c :: rest =>
    if c = '\x7d' then .ok ([], rest)
    else if c = '"' then
      match member item rest with
      | .error fault => .error fault
      | .ok ((name, value), left) => moreMembers item (Members.put name value []) left
    else .error (.next .keyNotString (c :: rest))

/-- A value from its first character on. Lists and objects are refused when
there is no reader for what they hold. -/
def valueFrom (nested? : Option (Reader Json)) (c : Char) (rest : List Char) : Reading Json :=
  if c = 'n' then literal .null ['u', 'l', 'l'] rest
  else if c = 't' then literal (.boolean true) ['r', 'u', 'e'] rest
  else if c = 'f' then literal (.boolean false) ['a', 'l', 's', 'e'] rest
  else if c = '-' then numeral true rest
  else if c.isDigit then numeral false (c :: rest)
  else if c = '"' then (Quotation.body [] rest).map fun (value, left) => (.string value, left)
  else if c = '[' then
    match nested? with
    | none => .error (.next .nestedTooDeep (c :: rest))
    | some item => (items item rest).map fun (values, left) => (.array values, left)
  else if c = '\x7b' then
    match nested? with
    | none => .error (.next .nestedTooDeep (c :: rest))
    | some item => (members item rest).map fun (found, left) => (.object found, left)
  else .error (.next .expectedValue (c :: rest))

/-- A value after any blanks. -/
def valueText (nested? : Option (Reader Json)) (text : List Char) : Reading Json :=
  match skipSpace text with
  | [] => .error (.behind .unfinishedValue [])
  | c :: rest => valueFrom nested? c rest

/-! ### What is left is shorter -/

variable {text left : List Char} {item : Reader Json}

theorem literal_length_le {value result : Json} {expected : List Char}
    (read : literal value expected text = .ok (result, left)) : left.length ≤ text.length := by
  fun_induction literal value expected text with
  | case1 => simp_all
  | case2 => simp at read
  | case3 =>
    rename_i ih
    have := ih read
    simp; omega
  | case4 => simp at read

theorem numeral_shorter {negative : Bool} {value : Json}
    (read : numeral negative text = .ok (value, left)) : left.length < text.length := by
  unfold numeral at read
  split at read
  · simp at read
  · rename_i found
    have := Numeral.unsigned_shorter found
    split at read
    · simp at read; simp [← read.2]; omega
    · simp at read

theorem moreItems_shorter {done values : List Json}
    (read : moreItems item done text = .ok (values, left)) : left.length < text.length := by
  fun_induction moreItems item done text with
  | case1 => simp at read
  | case2 _ text =>
    have := length_lt_of_skipSpace ‹skipSpace text = _›
    simp at read
    rw [← read.2]
    omega
  | case3 => simp at read
  | case4 => simp at read
  | case5 => simp at read
  | case6 _ text rest =>
    rename_i ih
    have := ih read
    have := item.shortens ‹item.read _ = _›
    have := length_lt_of_skipSpace ‹skipSpace rest = _›
    have := length_lt_of_skipSpace ‹skipSpace text = _›
    simp at *
    omega
  | case7 => simp at read

theorem items_shorter {values : List Json} (read : items item text = .ok (values, left)) :
    left.length < text.length := by
  have bound := skipSpace_length_le text
  unfold items at read
  split at read
  · simp at read
  · rename_i skipped
    rw [skipped] at bound
    split at read
    · simp at read bound; simp [← read.2]; omega
    · split at read
      · simp at read
      · rename_i step
        have := item.shortens step
        have := moreItems_shorter read
        omega

theorem moreMembers_shorter {done found : Members}
    (read : moreMembers item done text = .ok (found, left)) : left.length < text.length := by
  fun_induction moreMembers item done text with
  | case1 => simp at read
  | case2 _ text =>
    have := length_lt_of_skipSpace ‹skipSpace text = _›
    simp at read
    rw [← read.2]
    omega
  | case3 => simp at read
  | case4 => simp at read
  | case5 => simp at read
  | case6 _ text rest =>
    rename_i ih
    have := ih read
    have := member_shorter ‹member item _ = _›
    have := length_lt_of_skipSpace ‹skipSpace rest = _›
    have := length_lt_of_skipSpace ‹skipSpace text = _›
    omega
  | case7 => simp at read
  | case8 => simp at read

theorem members_shorter {found : Members} (read : members item text = .ok (found, left)) :
    left.length < text.length := by
  have bound := skipSpace_length_le text
  unfold members at read
  split at read
  · simp at read
  · rename_i skipped
    rw [skipped] at bound
    split at read
    · simp at read bound; simp [← read.2]; omega
    · split at read
      · split at read
        · simp at read
        · rename_i step
          have := member_shorter step
          have := moreMembers_shorter read
          simp at bound
          omega
      · simp at read

theorem map_ok {α β : Type} {f : α → β} {result : Except Fault α} {b : β}
    (mapped : result.map f = .ok b) : ∃ a, result = .ok a ∧ f a = b := by
  cases result with
  | error fault => simp [Except.map] at mapped
  | ok a => exact ⟨a, rfl, by simpa [Except.map] using mapped⟩

theorem valueFrom_length_le {nested? : Option (Reader Json)} {c : Char} {value : Json}
    (read : valueFrom nested? c text = .ok (value, left)) : left.length ≤ text.length := by
  unfold valueFrom at read
  repeat' split at read
  · exact literal_length_le read
  · exact literal_length_le read
  · exact literal_length_le read
  · exact Nat.le_of_lt (numeral_shorter read)
  · have := numeral_shorter read
    simp at this
    omega
  · obtain ⟨_, found, same⟩ := map_ok read
    have := Quotation.body_shorter found
    simp at same
    rw [← same.2]
    omega
  · simp at read
  · obtain ⟨_, found, same⟩ := map_ok read
    have := items_shorter found
    simp at same
    rw [← same.2]
    omega
  · simp at read
  · obtain ⟨_, found, same⟩ := map_ok read
    have := members_shorter found
    simp at same
    rw [← same.2]
    omega
  · simp at read

theorem valueText_shorter {nested? : Option (Reader Json)} {value : Json}
    (read : valueText nested? text = .ok (value, left)) : left.length < text.length := by
  have bound := skipSpace_length_le text
  unfold valueText at read
  split at read
  · simp at read
  · rename_i skipped
    rw [skipped] at bound
    have := valueFrom_length_le read
    simp at bound
    omega

/-! ### Whole texts -/

/-- The reader of values that nest lists and objects at most `n` deep. -/
def value : Nat → Reader Json
  | 0 => ⟨valueText none, valueText_shorter⟩
  | n + 1 => ⟨valueText (some (value n)), valueText_shorter⟩

/-- Lists and objects nest at most this deep. -/
def greatestNesting : Nat := 127

/-- The value of a text that holds exactly one, with blanks around it. -/
def parse (text : List Char) : Except SyntaxError Json :=
  match (value greatestNesting).read text with
  | .error fault => .error (fault.locate text)
  | .ok (result, left) =>
    match skipSpace left with
    | [] => .ok result
    | c :: rest => .error ((Fault.next .trailingCharacters (c :: rest)).locate text)

end ClusterTopology.Json
