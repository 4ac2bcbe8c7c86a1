-- Menu items: the parts in brackets stand out.

namespace Diorama.Menu

-- Splits an item into plain and bracketed parts in turn, beginning and ending with a plain one.
-- The brackets belong to their part. A bracket that is never closed is plain text. The state is the
-- plain text so far, and the bracketed text so far if a bracket is open, both backwards.
def splitFrom (plain : List Char) : Option (List Char) → List Char → List (List Char)
  | none, [] => [plain.reverse]
  | some inner, [] => [plain.reverse ++ inner.reverse]
  | none, c :: rest =>
    if c = '[' then splitFrom plain (some [c]) rest else splitFrom (c :: plain) none rest
  | some inner, c :: rest =>
    if c = ']' then plain.reverse :: (c :: inner).reverse :: splitFrom [] none rest
    else splitFrom plain (some (c :: inner)) rest

def split (item : List Char) : List (List Char) := splitFrom [] none item

structure Part where
  text : List Char
  bold : Bool
deriving DecidableEq

-- Parts in turn, the first one plain.
def markParts : Bool → List (List Char) → List Part
  | _, [] => []
  | bold, text :: rest => ⟨text, bold⟩ :: markParts (!bold) rest

def parts (item : String) : List Part :=
  (markParts false (split item.toList)).filter (!·.text.isEmpty)

end Diorama.Menu
