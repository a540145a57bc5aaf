/-!
# Cutting texts

* `Text.splitWhere` — a text cut at the characters with a property.
* `Text.words` — the non-empty parts of a text between blanks and line breaks.
-/

namespace RealtimeClient.Text

/-- **The parts of a text** between the characters with a property, which belong to no part. -/
def splitWhere (isCut : Char → Bool) (text : List Char) : List (List Char) :=
  text.foldr
    (fun c parts =>
      match parts with
      | [] => [[c]]
      | part :: rest => if isCut c then [] :: part :: rest else (c :: part) :: rest)
    [[]]

/-- The non-empty parts of a text between blanks and line breaks. -/
def words (text : List Char) : List (List Char) :=
  (splitWhere (fun c => c = ' ' || c = '\n') text).filter (· ≠ [])

end RealtimeClient.Text
