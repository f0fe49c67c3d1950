/-!
# Ordered dictionaries

A dictionary is a list of pairs. A key keeps the place where it was first put and takes the value
that was last put.
-/

namespace ConnectClients.Assoc

variable {κ ν : Type} [BEq κ]

/-- Puts a value under a key. -/
def put (key : κ) (value : ν) : List (κ × ν) → List (κ × ν)
  | [] => [(key, value)]
  | (k, v) :: rest => if k == key then (k, value) :: rest else (k, v) :: put key value rest

/-- Puts pairs one after the other. -/
def putAll (entries pairs : List (κ × ν)) : List (κ × ν) :=
  pairs.foldl (fun d p => put p.1 p.2 d) entries

/-- The dictionary that a list of pairs makes. -/
def ofList (pairs : List (κ × ν)) : List (κ × ν) :=
  putAll [] pairs

/-- Adds an element at the end of the list under a key. -/
def append (key : κ) (value : ν) : List (κ × List ν) → List (κ × List ν)
  | [] => [(key, [value])]
  | (k, vs) :: rest => if k == key then (k, vs ++ [value]) :: rest else (k, vs) :: append key value rest

/-- The distinct elements in the order of their first appearance. -/
def distinct {α : Type} [BEq α] : List α → List α
  | [] => []
  | a :: rest => a :: (distinct rest).filter (· != a)

end ConnectClients.Assoc
