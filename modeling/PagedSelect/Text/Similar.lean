/-!
# Similar words

Suggestions for a misspelt word.  Two words are compared by their common blocks: the longest common
block first, then in the same way what lies to its left and to its right; the likeness is twice the
matched length over the total length.  Where the misspelt word is long, a character that takes up
more than a hundredth of it cannot start a block, but a block grows over such characters.
-/

namespace PagedSelect.Text

/-- A common block: its start in the candidate, its start in the word, its length. -/
structure Block where
  candidateStart : Nat
  wordStart : Nat
  length : Nat
deriving DecidableEq, Repr

/-- The characters of a long word that are too frequent to start a block. -/
def commonplace (word : List Char) : List Char :=
  let n := word.length
  if n < 200 then [] else (word.eraseDups).filter fun c => n / 100 + 1 < word.count c

/-- Lengths of the common runs that end at the candidate's character `c` and at each character of
the word, from the lengths one character earlier. -/
def runLengths (ignored : List Char) (c : Char) (word : List Char) (before : List Nat) : List Nat :=
  (word.zip (0 :: before)).map fun (w, n) => if w == c && !ignored.contains w then n + 1 else 0

/-- The better of a block and the runs that end at row `i`: a later one only if it is longer. -/
def bestOfRow (i : Nat) (best : Block) (runs : List Nat) : Block :=
  (runs.foldl (fun (acc : Block × Nat) k =>
    let (best, j) := acc
    (if best.length < k then ⟨i + 1 - k, j + 1 - k, k⟩ else best, j + 1)) (best, 0)).1

/-- The first of the longest common blocks that hold no ignored character. -/
def longestRun (ignored candidate word : List Char) : Block :=
  (candidate.foldl (fun (acc : Block × List Nat × Nat) c =>
    let (best, before, i) := acc
    let runs := runLengths ignored c word before
    (bestOfRow i best runs, runs, i + 1)) (⟨0, 0, 0⟩, word.map fun _ => 0, 0)).1

/-- Length of the longest common start of two lists. -/
def commonStart : List Char → List Char → Nat
  | a :: as, b :: bs => if a == b then commonStart as bs + 1 else 0
  | _, _ => 0

/-- The longest run, grown to both sides as far as the two words agree. -/
def longestBlock (ignored candidate word : List Char) : Block :=
  let run := longestRun ignored candidate word
  let back := commonStart (candidate.take run.candidateStart).reverse (word.take run.wordStart).reverse
  let ahead := commonStart (candidate.drop (run.candidateStart + run.length))
    (word.drop (run.wordStart + run.length))
  ⟨run.candidateStart - back, run.wordStart - back, run.length + back + ahead⟩

/-- Total length of the common blocks, with `fuel` no less than the length of the candidate. -/
def matchedWithin : Nat → List Char → List Char → List Char → Nat
  | 0, _, _, _ => 0
  | fuel + 1, ignored, candidate, word =>
    let block := longestBlock ignored candidate word
    if block.length = 0 then 0
    else block.length
      + matchedWithin fuel ignored (candidate.take block.candidateStart) (word.take block.wordStart)
      + matchedWithin fuel ignored (candidate.drop (block.candidateStart + block.length))
          (word.drop (block.wordStart + block.length))

def matched (candidate word : String) : Nat :=
  matchedWithin (candidate.length + 1) (commonplace word.toList) candidate.toList word.toList

/-- Likeness of a candidate, as a fraction: twice the matched length over the total length. -/
structure Likeness where
  matched : Nat
  total : Nat
deriving DecidableEq, Repr

def likeness (word candidate : String) : Likeness := ⟨matched candidate word, candidate.length + word.length⟩

/-- Likeness of at least three fifths; two empty words are alike. -/
def Likeness.isClose (l : Likeness) : Bool := l.total == 0 || 3 * l.total ≤ 10 * l.matched

/-- `a` is a better suggestion than `b`: closer, or as close and later in the order of code points. -/
def betterSuggestion (a b : Likeness × String) : Bool :=
  let left := a.1.matched * b.1.total
  let right := b.1.matched * a.1.total
  right < left || (right == left && b.2 ≤ a.2)

/-- The three best of the candidates that are close to a word, best first. -/
def suggestions (word : String) (candidates : List String) : List String :=
  let close := (candidates.map fun c => (likeness word c, c)).filter fun x => x.1.isClose
  ((close.mergeSort betterSuggestion).take 3).map (·.2)

end PagedSelect.Text
