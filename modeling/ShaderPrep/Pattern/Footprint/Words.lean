import ShaderPrep.Pattern.Footprint.Draft

/-!
The draft of a choice between words. Words are read along a tree, where those that begin with the
same bytes share states; a word that ends inside the tree starts a new group of ways below it, so
that the earlier words are preferred.
-/
namespace ShaderPrep.Pattern.Words

abbrev Word := List Nat

/-- The words at a node in groups; an empty word ends a group. -/
def groups : List Word → List (List Word)
  | [] => [[]]
  | [] :: words => [] :: groups words
  | word :: words =>
    match groups words with
    | group :: groups => (word :: group) :: groups
    | [] => [[word]]

/-- A word that ends at a node before any other goes on counts once. -/
def once : List Word → List Word
  | [] :: words => [] :: words.dropWhile List.isEmpty
  | words => words

/-- The bytes that words of a group go on with, each with the rests of these words. -/
def ways (group : List Word) : List (List Word) :=
  (group.filterMap List.head?).eraseDups.map fun b =>
    group.filterMap fun word => if word.head? = some b then some word.tail else none

/-- The draft of a node and those below it, where some word goes on. A group with one way needs no
ranges, and the groups together make one branching state. -/
def node : Nat → List Word → Draft → Draft
  | 0, _, d => d
  | depth + 1, words, d =>
    let groups := groups (once words)
    let d := groups.foldl (fun d group =>
      match ways group with
      | [] => d
      | ways =>
        let d := ways.foldl
          (fun d rests => if rests.all List.isEmpty then d else node depth rests d) d
        if ways.length = 1 then d.add 1 else d.ranges ways.length) d
    let filled := (groups.filter fun group => !group.isEmpty).length
    (d.add 1).branch (filled + groups.length - 1)

/-- The draft of a choice between words, none of them empty. -/
def draft (words : List Word) (d : Draft) : Draft :=
  node (words.foldl (fun depth word => max depth word.length) 0 + 1) words (d.add 1)

end ShaderPrep.Pattern.Words
