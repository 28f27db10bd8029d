import ProductGraph.Unicode.CaseFolding

/-!
# Sets of characters

A pattern matches one character by a set, kept as ranges that are sorted and do not touch.  Every operation
gives ranges of that form again.  The complement is taken among the code points; what it holds beyond the
characters matches nothing.
-/

namespace ProductGraph

/-- A set of characters as sorted ranges that do not touch. -/
abbrev CharSet := Unicode.Ranges

namespace CharSet

def last : Nat := 0x10FFFF

def has (set : CharSet) (c : Char) : Bool := Unicode.Ranges.contains set c.toNat

/-- Add a range; the ranges that it touches become one with it. -/
def insert (low high : Nat) : CharSet → CharSet
  | [] => [(low, high)]
  | (a, b) :: rest =>
    if high + 1 < a then (low, high) :: (a, b) :: rest
    else if b + 1 < low then (a, b) :: insert low high rest
    else insert (min low a) (max high b) rest

def single (c : Char) : CharSet := [(c.toNat, c.toNat)]

def union (s t : CharSet) : CharSet := s.foldl (fun set r => insert r.1 r.2 set) t

/-- The code points from `start` on that are not in the set. -/
def gapsFrom (start : Nat) : CharSet → CharSet
  | [] => if start ≤ last then [(start, last)] else []
  | (a, b) :: rest => if start < a then (start, a - 1) :: gapsFrom (b + 1) rest else gapsFrom (b + 1) rest

/-- The code points that are not in the set. -/
def complement (s : CharSet) : CharSet := gapsFrom 0 s

def inter (s t : CharSet) : CharSet := complement (union (complement s) (complement t))

def diff (s t : CharSet) : CharSet := inter s (complement t)

/-- The characters in just one of the sets. -/
def symmDiff (s t : CharSet) : CharSet := union (diff s t) (diff t s)

/-- The set with every character that differs from one of its own in case only. -/
def foldCase (s : CharSet) : CharSet :=
  let touched := Unicode.CaseFolding.classes.filter fun cls => cls.any (Unicode.Ranges.contains s)
  touched.foldl (fun set cls => cls.foldl (fun set point => insert point point set) set) s

def foldAsciiCase (s : CharSet) : CharSet :=
  let upper := inter s [(0x41, 0x5A)]
  let lower := inter s [(0x61, 0x7A)]
  union (union (upper.map fun r => (r.1 + 32, r.2 + 32)) (lower.map fun r => (r.1 - 32, r.2 - 32))) s

def isAscii (s : CharSet) : Bool := s.all (fun r => r.2 < 0x80)

def isSingle : CharSet → Bool
  | [(a, b)] => a == b
  | _ => false

end CharSet

end ProductGraph
