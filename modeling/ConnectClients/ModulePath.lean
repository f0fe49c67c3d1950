import ConnectClients.Text.Split

/-!
# Paths between generated modules

An import names another module by a path seen from the importing module, or by the name of a
package. `resolve` turns the former into a path from the root of the generated tree.
-/

namespace ConnectClients.ModulePath

open Text

/-- The directory of a path, without the slashes that end it unless it is nothing but slashes. -/
def directory (path : List Char) : List Char :=
  let head := (path.reverse.dropWhile (· != '/')).reverse
  if head.all (· == '/') then head else (head.reverse.dropWhile (· == '/')).reverse

/-- A path seen from a directory. -/
def join (dir path : List Char) : List Char :=
  if path.head? == some '/' then path
  else if dir.isEmpty || dir.getLast? == some '/' then dir ++ path
  else dir ++ '/' :: path

/-- Walks along segments: `.` and nothing stay, `..` goes back if there is a way back. The segments
walked are given last one first; `rooted` says that the way starts at the root. -/
def walk (rooted : Bool) : List (List Char) → List (List Char) → List (List Char)
  | walked, [] => walked.reverse
  | walked, seg :: rest =>
    if seg.isEmpty || seg == ['.'] then walk rooted walked rest
    else if seg == ['.', '.'] then
      match walked with
      | [] => if rooted then walk rooted [] rest else walk rooted [seg] rest
      | last :: back =>
        if last == ['.', '.'] then walk rooted (seg :: walked) rest else walk rooted back rest
    else walk rooted (seg :: walked) rest

/-- The slashes a path starts with: two stand for themselves, three or more for one. -/
def rootSlashes : List Char → Nat
  | '/' :: '/' :: '/' :: _ => 1
  | '/' :: '/' :: _ => 2
  | '/' :: _ => 1
  | _ => 0

/-- The path without detours. -/
def normalize (path : List Char) : List Char :=
  let slashes := rootSlashes path
  let walked := walk (slashes != 0) [] (splitOn '/' path)
  match List.replicate slashes '/' ++ joinWith ['/'] walked with
  | [] => ['.']
  | result => result

/-- Where a specifier leads that the module at `importPath` imports from: a specifier that starts
with a dot is seen from the module's directory, any other one stands for itself. -/
def resolve (specifier importPath : String) : String :=
  match specifier.toList with
  | '.' :: rest =>
    String.ofList (normalize (join (directory importPath.toList) ('.' :: rest)))
  | _ => specifier

end ConnectClients.ModulePath
