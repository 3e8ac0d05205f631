/-!
# Similar texts

A misspelt name is answered with the known name most like it. Two texts are compared by their longest common
run, then by the longest common runs to the left and to the right of it, and so on; the total length of these
runs, taken twice, over the total length of both texts is their likeness. In a long text, characters that
make up more than a hundredth of it start no run, though they may extend one.
-/

set_option autoImplicit false

namespace DynamicBlocks.Text

/-- A common run: where it starts in either text, and its length. -/
structure CommonRun where
  /-- Start in the candidate. -/
  left : Nat
  /-- Start in the word looked for. -/
  right : Nat
  /-- Number of characters. -/
  size : Nat

/-- Characters too frequent in a word of 200 characters or more to start a common run. -/
def frequentChars (word : Array Char) : List Char :=
  if word.size < 200 then []
  else
    let limit := word.size / 100 + 1
    word.toList.eraseDups.filter fun c => decide (limit < word.count c)

/-- The run lengths that end at each position of the word for one more character of the candidate, given
those for the character before. -/
def runLengths (frequent : List Char) (word : Array Char) (low high : Nat) (c : Char)
    (previous : Array Nat) : Array Nat :=
  (Array.range word.size).map fun j =>
    if low ≤ j ∧ j < high ∧ word[j]? = some c ∧ !frequent.contains c then
      (if j = low then 0 else previous.getD (j - 1) 0) + 1
    else 0

/-- The best run so far, improved by the runs that end at position `i` of the candidate. -/
def improveRun (i : Nat) (lengths : Array Nat) (best : CommonRun) : CommonRun :=
  (List.range lengths.size).foldl
    (fun best j =>
      let size := lengths.getD j 0
      if best.size < size then ⟨i + 1 - size, j + 1 - size, size⟩ else best)
    best

/-- The run lengthened to the left by up to `steps` equal characters. -/
def extendLeft (text word : Array Char) (lowLeft lowRight : Nat) : (steps : Nat) → CommonRun → CommonRun
  | 0, run => run
  | steps + 1, run =>
    if lowLeft < run.left ∧ lowRight < run.right ∧ text[run.left - 1]? = word[run.right - 1]? then
      extendLeft text word lowLeft lowRight steps ⟨run.left - 1, run.right - 1, run.size + 1⟩
    else run

/-- The run lengthened to the right by up to `steps` equal characters. -/
def extendRight (text word : Array Char) (highLeft highRight : Nat) : (steps : Nat) → CommonRun → CommonRun
  | 0, run => run
  | steps + 1, run =>
    if run.left + run.size < highLeft ∧ run.right + run.size < highRight ∧
        text[run.left + run.size]? = word[run.right + run.size]? then
      extendRight text word highLeft highRight steps ⟨run.left, run.right, run.size + 1⟩
    else run

/-- The longest common run of two parts; of equally long ones the leftmost in the candidate, then in the
word. -/
def longestRun (frequent : List Char) (text word : Array Char) (lowLeft highLeft lowRight highRight : Nat) :
    CommonRun :=
  let scanned := (List.range' lowLeft (highLeft - lowLeft)).foldl
    (fun (state : Array Nat × CommonRun) i =>
      let lengths := match text[i]? with
        | some c => runLengths frequent word lowRight highRight c state.1
        | none => #[]
      (lengths, improveRun i lengths state.2))
    (#[], ⟨lowLeft, lowRight, 0⟩)
  extendRight text word highLeft highRight text.size
    (extendLeft text word lowLeft lowRight text.size scanned.2)

/-- Total length of the common runs of two parts. Every round is over a shorter part of the candidate, so
its length bounds the rounds. -/
def commonLength (frequent : List Char) (text word : Array Char) :
    (rounds lowLeft highLeft lowRight highRight : Nat) → Nat
  | 0, _, _, _, _ => 0
  | rounds + 1, lowLeft, highLeft, lowRight, highRight =>
    let run := longestRun frequent text word lowLeft highLeft lowRight highRight
    if run.size = 0 then 0
    else
      commonLength frequent text word rounds lowLeft run.left lowRight run.right + run.size +
        commonLength frequent text word rounds (run.left + run.size) highLeft (run.right + run.size) highRight

/-- A share of matching characters: twice the common length over both lengths together. -/
structure Likeness where
  /-- Length of the common runs. -/
  common : Nat
  /-- Length of both texts together. -/
  total : Nat

/-- How like the candidate is to the word. -/
def likeness (candidate word : String) : Likeness :=
  let text := candidate.toList.toArray
  let target := word.toList.toArray
  ⟨commonLength (frequentChars target) text target text.size 0 text.size 0 target.size,
    text.size + target.size⟩

/-- Whether at least three fifths of the characters match; two empty texts are alike. -/
def Likeness.isClose (l : Likeness) : Bool :=
  decide (3 * l.total ≤ 10 * l.common)

/-- Whether the first share is the smaller one. -/
def Likeness.less (a b : Likeness) : Bool :=
  decide (a.common * b.total < b.common * a.total)

/-- Of two candidates with their likeness the better one; at equal likeness the greater text. -/
def betterMatch (a b : Likeness × String) : Likeness × String :=
  if a.1.less b.1 then b
  else if b.1.less a.1 then a
  else if a.2 < b.2 then b
  else a

/-- The known name most like `word`, if any is like enough. -/
def closestMatch? (word : String) (known : List String) : Option String :=
  let close := (known.map fun name => (likeness name word, name)).filter fun c => c.1.isClose
  match close with
  | [] => none
  | first :: more => some (more.foldl betterMatch first).2

end DynamicBlocks.Text
