import Planar.Kind.Basic

/-! The comparison matrix of a list: its entry in row `i` and column `j` says
whether a relation holds from the `i`-th member to the `j`-th. -/

namespace Planar.Matrix

variable {α : Type}

def compare (rel : α → α → Bool) (members : List α) : List (List Bool) :=
  members.map fun p => members.map fun q => rel p q

def toDatum (rows : List (List Bool)) : Datum :=
  .list (rows.map fun row => .ofChars (row.map fun b => if b then '1' else '0'))

theorem getElem?_compare (rel : α → α → Bool) (members : List α) (i j : Nat) :
    ((compare rel members)[i]? >>= fun row => row[j]?) =
      (members[i]? >>= fun p => members[j]?.map (rel p)) := by
  cases h : members[i]? <;> simp [compare, h]

end Planar.Matrix
