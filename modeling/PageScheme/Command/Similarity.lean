/-!
# Names that resemble a word

Two words are compared by what they share: their longest common run, and then, again, what is shared
on its left and on its right. They resemble each other when at least six tenths of their letters are
shared. A mistyped name is answered with the names that resemble it, at most three of them.
-/
namespace PageScheme.Command

structure SharedRun where
  left : Nat
  right : Nat
  length : Nat

def commonFront : List Char → List Char → Nat
  | a :: as, b :: bs => if a = b then commonFront as bs + 1 else 0
  | _, _ => 0

def sharedRuns (a b : List Char) : List SharedRun :=
  (List.range a.length).flatMap fun left =>
    (List.range b.length).map fun right =>
      ⟨left, right, commonFront (a.drop left) (b.drop right)⟩

/-- The longest run of two words, and of several the leftmost. -/
def longestRun (a b : List Char) : SharedRun :=
  (sharedRuns a b).foldl (fun best run => if best.length < run.length then run else best) ⟨0, 0, 0⟩

def sharedLetters (a b : List Char) : Nat :=
  match longestRun a b with
  | ⟨left, right, length⟩ =>
    -- The bound makes both sides shorter; every shared run meets it.
    if _ : 0 < length ∧ left + length ≤ a.length then
      length + sharedLetters (a.take left) (b.take right) +
        sharedLetters (a.drop (left + length)) (b.drop (right + length))
    else 0
termination_by a.length
decreasing_by all_goals simp only [List.length_take, List.length_drop]; omega

/-- A name with the letters it shares with a word, out of those that both have. -/
structure Candidate where
  name : String
  shared : Nat
  letters : Nat

def Candidate.of (word name : String) : Candidate :=
  ⟨name, sharedLetters name.toList word.toList, name.length + word.length⟩

/-- Whether six tenths of the letters are shared. -/
def Candidate.isClose (c : Candidate) : Bool := 3 * c.letters ≤ 10 * c.shared

/-- Whether one name is the better guess; of equally good ones the later in the alphabet is. -/
def Candidate.precedes (c d : Candidate) : Bool :=
  let mine := c.shared * d.letters
  let other := d.shared * c.letters
  other < mine || (mine = other && d.name ≤ c.name)

/-- The best three names that resemble a word, in alphabetical order. -/
def resembling (word : String) (names : List String) : List String :=
  let close := (names.map (Candidate.of word)).filter Candidate.isClose
  (((close.mergeSort Candidate.precedes).take 3).map Candidate.name).mergeSort (· ≤ ·)

end PageScheme.Command
