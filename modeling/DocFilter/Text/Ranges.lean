import DocFilter.Text.Basic

/-!
Sets of characters, as ranges of code points.
-/

namespace DocFilter.Text

/-- The last code point. -/
def lastCode : Nat := 0x10ffff

namespace Ranges

def holds (s : Ranges) (code : Nat) : Bool := s.any fun (lo, hi) => lo ≤ code && code ≤ hi

/-- Joins a range with those behind it, which are in order. -/
def joinRanges (lo hi : Nat) : Ranges → Ranges
  | [] => [(lo, hi)]
  | (a, b) :: rest =>
    if a ≤ hi + 1 then joinRanges lo (max hi b) rest else (lo, hi) :: joinRanges a b rest

/-- The same set, by ranges in order with gaps between them. -/
def normal (s : Ranges) : Ranges :=
  match s.mergeSort fun r t => r.1 ≤ t.1 with
  | [] => []
  | (lo, hi) :: rest => joinRanges lo hi rest

def union (s t : Ranges) : Ranges := normal (s ++ t)

/-- What is not in ranges that are in order, from a code point on. -/
def gaps (start : Nat) : Ranges → Ranges
  | [] => if start ≤ lastCode then [(start, lastCode)] else []
  | (lo, hi) :: rest =>
    if start < lo then (start, lo - 1) :: gaps (hi + 1) rest else gaps (hi + 1) rest

def complement (s : Ranges) : Ranges := gaps 0 s.normal

def intersection (s t : Ranges) : Ranges :=
  normal <| s.flatMap fun (a, b) => t.filterMap fun (c, d) =>
    if max a c ≤ min b d then some (max a c, min b d) else none

def difference (s t : Ranges) : Ranges := s.intersection t.complement

def symmetricDifference (s t : Ranges) : Ranges := (s.difference t).union (t.difference s)

end Ranges

end DocFilter.Text
