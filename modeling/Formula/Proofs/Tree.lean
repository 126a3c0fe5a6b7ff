import Formula.Proofs.Program.Run

/-!
Expression trees and their postorder. A program that is the postorder of a tree does what the tree
means: it computes the arguments from left to right and then applies the item above them.
-/

set_option autoImplicit false

namespace Formula

/-- An expression tree. Every item has as many subtrees as it takes values. -/
inductive Tree where
  | node (i : Item) (children : Fin i.count → Tree)

namespace Tree

def postorder : Tree → List Item
  | node i children => ((List.finRange i.count).flatMap fun k => (children k).postorder) ++ [i]

def value (bindings : Bindings) : Tree → Except EvaluationError Decimal
  | node i children => do
    let arguments ← (List.finRange i.count).mapM fun k => (children k).value bindings
    i.value bindings arguments

theorem postorder_ne_nil (t : Tree) : t.postorder ≠ [] := by
  cases t with
  | node i children => simp [postorder]

end Tree

theorem length_of_mapM {α β ε : Type} {f : α → Except ε β} {inputs : List α} {outputs : List β}
    (done : inputs.mapM f = .ok outputs) : outputs.length = inputs.length := by
  induction inputs generalizing outputs with
  | nil => cases done; rfl
  | cons input inputs ih =>
    simp only [List.mapM_cons] at done
    cases first : f input with
    | error error => simp [first, bind, Except.bind] at done
    | ok output =>
      cases rest : inputs.mapM f with
      | error error => simp [first, rest, bind, Except.bind] at done
      | ok outputs' =>
        simp only [first, rest] at done
        cases done
        simp [ih rest]

section
variable (bindings : Bindings)

theorem runOn_flatMap {n : Nat} {children : Fin n → Tree}
    (runs : ∀ k below, runOn bindings below (children k).postorder =
      ((children k).value bindings).map (· :: below))
    (places : List (Fin n)) (below : List Decimal) :
    runOn bindings below (places.flatMap fun k => (children k).postorder) =
      (places.mapM fun k => (children k).value bindings).map (·.reverse ++ below) := by
  induction places generalizing below with
  | nil => rfl
  | cons k places ih =>
    rw [List.flatMap_cons, runOn_append, runs, List.mapM_cons]
    cases (children k).value bindings with
    | error error => rfl
    | ok value =>
      change runOn bindings (value :: below) _ = _
      rw [ih]
      cases places.mapM fun k => (children k).value bindings with
      | error error => rfl
      | ok values => simp [bind, Except.bind, Except.map, pure, Except.pure]

/-- The program of a tree puts the tree's value on top of whatever lies below. -/
theorem runOn_postorder (t : Tree) (below : List Decimal) :
    runOn bindings below t.postorder = (t.value bindings).map (· :: below) := by
  -- The values below are arbitrary: for each subtree they are those of the subtrees before it.
  induction t generalizing below with
  | node i children ih =>
    rw [Tree.postorder, runOn_append, runOn_flatMap bindings ih, Tree.value]
    cases found : (List.finRange i.count).mapM fun k => (children k).value bindings with
    | error error => rfl
    | ok arguments =>
      have enough : arguments.length = i.count := by
        rw [length_of_mapM found, List.length_finRange]
      change runOn bindings (arguments.reverse ++ below) [i] =
        (i.value bindings arguments).map (· :: below)
      rw [runOn_cons, stepOn_reverse_append bindings enough]
      cases i.value bindings arguments <;> rfl

/-- Running the postorder of a tree computes the tree: the same value, or the same first error. -/
theorem evaluate_postorder (t : Tree) : evaluate t.postorder bindings = t.value bindings := by
  rw [evaluate_eq_runOn, runOn_postorder]
  cases t.value bindings <;> rfl

end

end Formula
