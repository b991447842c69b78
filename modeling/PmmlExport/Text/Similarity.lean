/-!
# Similarity of words

The Jaro similarity of two words, used to propose a known name in place of a mistyped one.
Two characters match when they are equal, the second is not matched yet, and their positions
differ by at most the window: half the longer length, less one. The characters of the first
word are matched in turn, each with the first candidate of the second word. The score is the
mean of three shares: matched characters of the first word, matched characters of the second,
and matches that keep their order, where half the out-of-order matches count as lost. The score
is computed in binary64 arithmetic, so that a threshold compares as it does for doubles.
-/

namespace PmmlExport.Text

/-- The distance within which two equal characters may match. -/
def matchWindow (m n : Nat) : Nat := max m n / 2 - 1

/-- The first position in `[lo, hi)` of `b` that holds `c` and is not yet marked. -/
def firstFree (b : Array Char) (marked : Array Bool) (c : Char) (lo hi : Nat) : Option Nat :=
  (List.range' lo (hi - lo)).find? fun j => b[j]? == some c && marked[j]? == some false

/-- The marks of matched characters: for each character of `a` in turn, the first free equal
character of `b` within the window is marked, and so is the character of `a`. -/
def matchMarks (a : List Char) (b : Array Char) : List Bool × Array Bool :=
  let w := matchWindow a.length b.size
  a.zipIdx.foldl (fun (acc : List Bool × Array Bool) (ci : Char × Nat) =>
      match firstFree b acc.2 ci.1 (ci.2 - w) (min b.size (ci.2 + w + 1)) with
      | some j => (acc.1 ++ [true], acc.2.setIfInBounds j true)
      | none => (acc.1 ++ [false], acc.2))
    ([], Array.replicate b.size false)

/-- The marked characters of a word, in order. -/
def marked (s : List Char) (marks : List Bool) : List Char :=
  (s.zip marks).filterMap fun p => if p.2 then some p.1 else none

/-- Half the number of places where the two sequences of matched characters differ. -/
def transpositions (x y : List Char) : Nat :=
  ((x.zip y).countP fun p => p.1 != p.2) / 2

/-- The Jaro similarity of two words: one for two empty words, zero when either is empty or
nothing matches. -/
def jaro (s t : String) : Float :=
  let a := s.toList
  let b := t.toList.toArray
  if a.isEmpty && b.isEmpty then 1.0
  else if a.isEmpty || b.isEmpty then 0.0
  else
    let marks := matchMarks a b
    let m := marks.1.count true
    if m = 0 then 0.0
    else
      let t := transpositions (marked a marks.1) (marked b.toList marks.2.toList)
      let mf := m.toFloat
      (mf / a.length.toFloat + mf / b.size.toFloat + (m - t).toFloat / mf) / 3.0

/-- The least score at which a known name is proposed; the score must exceed it. -/
def proposalThreshold : Float := 0.7

/-- The known name most similar to a word, among those scoring above the threshold; of equal
scores the later name wins. -/
def closest (word : String) (names : List String) : Option String :=
  let best := names.foldl (fun (best : Option (Float × String)) n =>
      let score := jaro word n
      if score > proposalThreshold then
        match best with
        | some (top, _) => if score ≥ top then some (score, n) else best
        | none => some (score, n)
      else best) none
  best.map (·.2)

end PmmlExport.Text
