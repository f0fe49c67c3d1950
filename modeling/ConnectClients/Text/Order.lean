/-!
# Order of texts

Texts are ordered by code points, and lists of texts like words whose letters are texts.
-/

namespace ConnectClients.Text

/-- Whether one list of texts stands before another, or is the same. -/
def wordsLE : List String → List String → Bool
  | [], _ => true
  | _ :: _, [] => false
  | a :: as, b :: bs => if a = b then wordsLE as bs else decide (a < b)

/-- Texts in order. -/
def sortTexts (texts : List String) : List String :=
  texts.mergeSort fun a b => !decide (b < a)

/-- Lists of texts in order. -/
def sortWords (words : List (List String)) : List (List String) :=
  words.mergeSort wordsLE

end ConnectClients.Text
