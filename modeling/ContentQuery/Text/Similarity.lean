import ContentQuery.Text

/-!
# ContentQuery.Text.Similarity

How much two texts have in common, and the words that come closest to a given one.

The longest block that two texts share is matched first, and then what lies before it and what lies
after it in both texts, in the same way. The share of the two texts that is matched is the measure
of their similarity.
-/

namespace ContentQuery.Similarity

/-- The length of the longest beginning that two texts share. -/
def sharedLength : Text → Text → Nat
  | a :: as, b :: bs => if a = b then sharedLength as bs + 1 else 0
  | _, _ => 0

theorem sharedLength_le_left (a b : Text) : sharedLength a b ≤ a.length := by
  induction a generalizing b with
  | nil => simp [sharedLength]
  | cons x xs ih =>
    cases b with
    | nil => simp [sharedLength]
    | cons y ys =>
      have := ih ys
      simp only [sharedLength, List.length_cons]
      split <;> omega

/-- A block that two texts share: where it begins in each, and its length. -/
structure Block where
  left : Nat
  right : Nat
  length : Nat
  deriving DecidableEq

/-- The longer of two blocks; of blocks of one length the first stays. -/
def Block.longer (a b : Block) : Block := if a.length < b.length then b else a

/-- The blocks that begin at every place of the second text, and at the place `left` where the first
text has `a`. -/
def blocksAt (left : Nat) (a : Text) (b : Text) : List Block :=
  (List.range b.length).map fun right => ⟨left, right, sharedLength a (b.drop right)⟩

/-- The longest block that two texts share: the one that begins first in the first text, and then in
the second one, if there are several. -/
def longestBlock (a b : Text) : Block :=
  ((List.range a.length).flatMap fun left => blocksAt left (a.drop left) b).foldl Block.longer
    ⟨0, 0, 0⟩

/-- The number of code points of two texts that are matched; `limit` bounds the number of blocks one
within another. -/
def matchedUpTo : (limit : Nat) → Text → Text → Nat
  | 0, _, _ => 0
  | limit + 1, a, b =>
    let block := longestBlock a b
    if block.length = 0 then 0
    else
      matchedUpTo limit (a.take block.left) (b.take block.right) + block.length
        + matchedUpTo limit (a.drop (block.left + block.length))
            (b.drop (block.right + block.length))

/-- The number of code points of a text that are matched by another one. -/
def matched (a b : Text) : Nat := matchedUpTo a.length a b

/-- Whether two texts are close: of each five code points of both, three are matched. -/
def isClose (a b : Text) : Bool := 3 * (a.length + b.length) ≤ 5 * (2 * matched a b)

/-- Whether `a` is at least as close to a word as `b` is; of words equally close the later one in
the order of texts comes first. -/
def closer (word a b : Text) : Bool :=
  let x := matched a word * (b.length + word.length)
  let y := matched b word * (a.length + word.length)
  if x = y then !a.precedes b else y < x

/-- At most how many words are offered. -/
def maxOffers : Nat := 3

/-- The words that come closest to a given one, the closest first. -/
def closest (word : Text) (words : List Text) : List Text :=
  ((words.filter fun other => isClose other word).mergeSort (closer word)).take maxOffers

end ContentQuery.Similarity
