/-! Searching a list of units. Every function here reads the list from its front and
answers an offset into it, so a scan knows nothing of the buffer around the units. -/

namespace TextScan.Scan

variable {α : Type} [DecidableEq α]

/-- The offset of the leftmost place where `needle` stands whole. The empty needle
stands at the front. -/
def find? (needle : List α) : List α → Option Nat
  | [] => if needle.isEmpty then some 0 else none
  | unit :: rest =>
    if needle.isPrefixOf (unit :: rest) then some 0
    else (find? needle rest).map (· + 1)

def findWhere? (test : α → Bool) (content : List α) : Option Nat := content.findIdx? test

def findLast? (test : α → Bool) (content : List α) : Option Nat :=
  (content.reverse.findIdx? test).map (content.length - 1 - ·)

example : find? [1, 2] [1, 1, 2, 1, 2] = some 1 ∧ find? [] [3] = some 0 := by decide

end TextScan.Scan
