/-!
# Entries sorted by name

Some listings of names are sorted: the keys of a JSON object, the names visible in an environment.
The order is that of the characters' code points, which is also the order of the bytes in which the
names are encoded.
-/

namespace Homoiconic.SortedEntries

universe u

variable {α : Type u}

/-- Put an entry in its place.  A name that is already there gets the new value. -/
def insert (key : String) (value : α) : List (String × α) → List (String × α)
  | [] => [(key, value)]
  | (k, v) :: rest =>
    if key = k then (key, value) :: rest
    else if key < k then (key, value) :: (k, v) :: rest
    else (k, v) :: insert key value rest

/-- Insert entries from left to right; of several with the same name the last one counts. -/
def ofList (entries : List (String × α)) : List (String × α) :=
  entries.foldl (fun sorted entry => insert entry.1 entry.2 sorted) []

/-- The names increase strictly. -/
def Sorted (entries : List (String × α)) : Prop := entries.Pairwise fun a b => a.1 < b.1

end Homoiconic.SortedEntries
