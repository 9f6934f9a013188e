import CardTable.Card.Shuffle

/-!
# Chance

Shuffles out of a generator of random numbers. Every card gets a number and the cards are sorted by
their numbers, so whatever the generator says, the result is a rearrangement.
-/

namespace CardTable

/-- The next random numbers of a generator. -/
def randomNumbers : Nat → StdGen → List Nat
  | 0, _ => []
  | count + 1, generator =>
    let (number, later) := stdNext generator
    number :: randomNumbers count later

@[simp]
theorem length_randomNumbers (count : Nat) (generator : StdGen) :
    (randomNumbers count generator).length = count := by
  induction count generalizing generator with
  | zero => rfl
  | succ count ih => simp [randomNumbers, ih]

/-- Generators that are split off a generator one after the other. -/
def splitGenerators : Nat → StdGen → List StdGen
  | 0, _ => []
  | count + 1, generator =>
    let (first, later) := stdSplit generator
    first :: splitGenerators count later

/-- The shuffle that sorts the cards by random numbers. -/
def Shuffle.random (generator : StdGen) : Shuffle where
  rearrange cards :=
    (((randomNumbers cards.length generator).zip cards).mergeSort fun first second =>
      first.1 ≤ second.1).map Prod.snd
  perm cards := by
    refine ((List.mergeSort_perm _ _).map _).trans ?_
    rw [List.map_snd_zip (by simp)]

namespace Deal

/-- How many shuffles of the pile are drawn for one game. -/
def recyclesAhead : Nat := 1000

/-- A random deal. -/
def random (generator : StdGen) : Deal :=
  let (first, later) := stdSplit generator
  { deck := .random first
    recycles := (splitGenerators recyclesAhead later).map Shuffle.random }

end Deal

end CardTable
