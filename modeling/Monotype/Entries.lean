namespace Monotype.Entries

variable {κ ν : Type} [BEq κ]

def get? (es : List (κ × ν)) (k : κ) : Option ν :=
  match es with
  | [] => none
  | (k', v) :: es => if k' == k then some v else get? es k

def contains (es : List (κ × ν)) (k : κ) : Bool := (get? es k).isSome

/-- Set the value under a key. A new key comes last; a known key keeps its place and its spelling. -/
def put (es : List (κ × ν)) (k : κ) (v : ν) : List (κ × ν) :=
  match es with
  | [] => [(k, v)]
  | (k', v') :: es => if k' == k then (k', v) :: es else (k', v') :: put es k v

def ofList (es : List (κ × ν)) : List (κ × ν) := es.foldl (fun acc (k, v) => put acc k v) []

def sorted (es : List (String × ν)) : List (String × ν) :=
  es.mergeSort fun a b => decide (a.1 ≤ b.1)

end Monotype.Entries
