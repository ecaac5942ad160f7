import ParentalCoord.Interleaving.Handler

/-!
Handlers over two surfaces side by side.

A service that calls another one makes the calls of both.  A handler over the first
surface stands as it is where the calls on both are answered.
-/

namespace Interleaving

variable {ι κ : Interface} {ε α β W : Type}

/-- The calls of two interfaces. -/
@[reducible] def Interface.sum (ι κ : Interface) : Interface where
  Call := ι.Call ⊕ κ.Call
  Answer
    | .inl query => ι.Answer query
    | .inr query => κ.Answer query

/-- Both surfaces, served in one world. -/
def serveSum (serve : (query : ι.Call) → W → Except ε (ι.Answer query) × W)
    (serve' : (query : κ.Call) → W → Except ε (κ.Answer query) × W) :
    (query : (ι.sum κ).Call) → W → Except ε ((ι.sum κ).Answer query) × W
  | .inl query, world => serve query world
  | .inr query, world => serve' query world

namespace Handler

/-- A handler over the first of two surfaces. -/
def inl : Handler ι ε α → Handler (ι.sum κ) ε α
  | .ret value => .ret value
  | .throw error => .throw error
  | .call query next => .call (.inl query) fun answer => (next answer).inl

/-- It makes the calls that it made. -/
theorem Calls.inl {only : ι.Call → Prop} {handler : Handler ι ε α} (calls : handler.Calls only) :
    (handler.inl : Handler (ι.sum κ) ε α).Calls fun query =>
      ∃ first, query = Sum.inl first ∧ only first := by
  induction handler with
  | ret value => trivial
  | throw error => trivial
  | call query next ih => exact ⟨⟨query, rfl, calls.1⟩, fun answer => ih answer (calls.2 answer)⟩

/-- And it goes as it went. -/
theorem run_inl (serve : (query : ι.Call) → W → Except ε (ι.Answer query) × W)
    (serve' : (query : κ.Call) → W → Except ε (κ.Answer query) × W) (handler : Handler ι ε α) (world : W) :
    handler.inl.run (serveSum serve serve') world = handler.run serve world := by
  induction handler generalizing world with
  | ret value => rfl
  | throw error => rfl
  | call query next ih => exact ih _ _

theorem calls_any (handler : Handler ι ε α) : handler.Calls fun _ => True := by
  induction handler with
  | ret value => trivial
  | throw error => trivial
  | call query next ih => exact ⟨trivial, ih⟩

end Handler

end Interleaving
