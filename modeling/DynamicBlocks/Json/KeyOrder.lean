import DynamicBlocks.Text.CodePoint
import DynamicBlocks.Value.Basic

/-!
# The order of keys

Keys can be put in order if all of them are texts or all of them are numbers; a single key always can. Keys
that are numbers in the strict sense are sorted. What is not a number is neither smaller nor greater than
anything, so where such a key stands among others no order is settled by the keys alone; it is settled by the
rule of insertion here: the longest front part that rises is taken as it is, one that falls is turned around, and
every further key goes to the place that halving finds.
-/

set_option autoImplicit false

namespace DynamicBlocks.Json

/-- Whether two keys can be put in order: texts with texts and numbers with numbers. -/
def comparable : Value → Value → Bool
  | .text _, .text _ => true
  | a, b => a.number?.isSome && b.number?.isSome

/-- Whether one key stands before another. -/
def keyLess : Value → Value → Bool
  | .text s, .text t => Text.precedes s t
  | a, b => match a.number?, b.number? with
    | some m, some n => m.less n
    | _, _ => false

/-- Whether a key has a place in an order: all have but what is not a number. -/
def isOrdered : Value → Bool
  | .double (.nan _) => false
  | _ => true

section Insertion

variable {α : Type} (less : α → α → Bool)

/-- The front part of a list in which every element follows the one before it, and the rest. -/
def runBehind (follows : α → α → Bool) (last : α) : List α → List α × List α
  | [] => ([], [])
  | x :: xs =>
    if follows last x then
      let (run, rest) := runBehind follows x xs
      (x :: run, rest)
    else ([], x :: xs)

/-- The longest front part that rises, or that falls and is turned around, and the rest. -/
def leadingRun : List α → List α × List α
  | x :: y :: rest =>
    let falls := less y x
    let (run, rest) := runBehind (fun a b => less b a == falls) y rest
    (if falls then (x :: y :: run).reverse else x :: y :: run, rest)
  | short => (short, [])

/-- The place of an element between two bounds in a list that is in order, found by halving in so many steps. -/
def placeOf (inOrder : List α) (x : α) : (steps low high : Nat) → Nat
  | 0, low, _ => low
  | steps + 1, low, high =>
    match inOrder[(low + high) / 2]? with
    | none => low
    | some middle =>
      if high ≤ low then low
      else if less x middle then placeOf inOrder x steps low ((low + high) / 2)
      else placeOf inOrder x steps ((low + high) / 2 + 1) high

/-- A list with an element put in its place. -/
def putInOrder (inOrder : List α) (x : α) : List α :=
  let place := placeOf less inOrder x (inOrder.length + 1) 0 inOrder.length
  inOrder.take place ++ x :: inOrder.drop place

/-- A list put in order element by element. -/
def insertInOrder (xs : List α) : List α :=
  let (run, rest) := leadingRun less xs
  rest.foldl (putInOrder less) run

/-- Putting an element in its place loses nothing and adds nothing else. -/
theorem putInOrder_perm (inOrder : List α) (x : α) : (putInOrder less inOrder x).Perm (x :: inOrder) := by
  unfold putInOrder
  exact List.perm_middle.trans (by rw [List.take_append_drop])

end Insertion

/-- Elements in the order of their keys. -/
def inKeyOrder {α : Type} (key : α → Value) (xs : List α) : List α :=
  if xs.all fun x => isOrdered (key x) then xs.mergeSort fun a b => !keyLess (key b) (key a)
  else insertInOrder (fun a b => keyLess (key a) (key b)) xs

end DynamicBlocks.Json
