/-!
Lengths in bytes of the UTF-8 encoding.
-/

namespace ClusterTopology.Text

/-- The number of bytes of a text. -/
def byteCount (text : List Char) : Nat := text.foldr (fun c size => c.utf8Size + size) 0

end ClusterTopology.Text
