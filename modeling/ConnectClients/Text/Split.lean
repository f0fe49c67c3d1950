/-!
# Cutting and joining text

`splitOn` cuts at every occurrence of one character, so that there is always one piece more than
there are occurrences; `joinWith` puts pieces together again.
-/

namespace ConnectClients.Text

/-- The pieces between the occurrences of `sep`. -/
def splitOn (sep : Char) : List Char → List (List Char)
  | [] => [[]]
  | c :: rest =>
    if c = sep then [] :: splitOn sep rest
    else match splitOn sep rest with
      | [] => [[c]]
      | piece :: pieces => (c :: piece) :: pieces

/-- The pieces with `sep` between them. -/
def joinWith (sep : List Char) : List (List Char) → List Char
  | [] => []
  | [piece] => piece
  | piece :: pieces => piece ++ sep ++ joinWith sep pieces

/-- Cuts off everything from the first occurrence of `sep` on. -/
def before (sep : Char) (cs : List Char) : List Char :=
  cs.takeWhile (· != sep)

/-- Takes away a suffix, if the text ends in it. -/
def dropSuffix? (suffix : List Char) (cs : List Char) : Option (List Char) :=
  if suffix.isSuffixOf cs then some (cs.take (cs.length - suffix.length)) else none

/-- The lines of a text that ends every line with a newline. -/
def unlines (lines : List String) : String :=
  "\n".intercalate lines ++ "\n"

end ConnectClients.Text
