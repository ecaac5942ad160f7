import Mathlib.Data.List.Basic

/-!
Translating a stream as it comes in.

A translator holds on to what it cannot translate yet.  What it has put out stays as it is, whatever
comes next, and how much it can be holding on to says how much it must have put out.
-/

namespace ParentalCoord

/-- A step for each element, and what is put out at the end for what is still held on to. -/
structure Translator (α β σ : Type) where
  start : σ
  step : σ → α → σ × List β
  finish : σ → List β

namespace Translator

variable {α β γ σ : Type} (t : Translator α β σ)

def run : σ → List α → σ × List β
  | state, [] => (state, [])
  | state, element :: rest =>
      ((run (t.step state element).1 rest).1, (t.step state element).2 ++ (run (t.step state element).1 rest).2)

def translate (text : List α) : List β := (t.run t.start text).2 ++ t.finish (t.run t.start text).1

theorem run_append (state : σ) (first second : List α) : t.run state (first ++ second) =
    ((t.run (t.run state first).1 second).1, (t.run state first).2 ++ (t.run (t.run state first).1 second).2) := by
  induction first generalizing state with
  | nil => rfl
  | cons element first ih => rw [List.cons_append, run, ih, run, List.append_assoc]

/-- What has been put out stays. -/
theorem take_translate {count : ℕ} {first : List α} (second : List α)
    (enough : count ≤ (t.run t.start first).2.length) :
    (t.translate first).take count = (t.translate (first ++ second)).take count := by
  rw [translate, translate, run_append, List.take_append_of_le_length enough, List.append_assoc,
    List.take_append_of_le_length enough]

/-- As much comes out as goes in, at a rate, but for what is held on to. -/
structure Pace (rate : ℕ) where
  held : σ → ℕ
  kept : ∀ state element, held state + 1 ≤ held (t.step state element).1 + rate * (t.step state element).2.length

theorem Pace.run {t : Translator α β σ} {rate : ℕ} (pace : t.Pace rate) (state : σ) (text : List α) :
    pace.held state + text.length ≤ pace.held (t.run state text).1 + rate * (t.run state text).2.length := by
  induction text generalizing state with
  | nil => exact Nat.le_add_right _ _
  | cons element text ih =>
    have here := pace.kept state element
    have later := ih (t.step state element).1
    rw [Translator.run, List.length_cons, List.length_append, Nat.mul_add]
    dsimp only
    omega

/-- Where every item is translated by itself, a text of items is. -/
theorem translate_flatMap {encode : γ → List α} {decoded : γ → List β} (ends : t.finish t.start = [])
    (each : ∀ item, t.run t.start (encode item) = (t.start, decoded item)) (items : List γ) :
    t.translate (items.flatMap encode) = items.flatMap decoded := by
  suffices whole : t.run t.start (items.flatMap encode) = (t.start, items.flatMap decoded) by
    rw [translate, whole, ends, List.append_nil]
  induction items with
  | nil => rfl
  | cons item items ih => rw [List.flatMap_cons, run_append, each, ih, List.flatMap_cons]

end Translator

end ParentalCoord
