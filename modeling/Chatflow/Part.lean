/-! Parts of a state. -/

namespace Chatflow

/-- A part of a state: how to read it, and how to replace it. -/
structure Part (σ β : Type) where
  read : σ → β
  write : β → σ → σ

def Part.update {σ β : Type} (part : Part σ β) (f : β → β) (s : σ) : σ := part.write (f (part.read s)) s

def Part.whole {σ : Type} : Part σ σ := ⟨id, fun s _ => s⟩

/-- Work on a part of a state, as work on the whole. -/
def Part.run {σ β α : Type} (part : Part σ β) (work : StateM β α) : StateM σ α := fun s =>
  let (a, b) := work (part.read s)
  (a, part.write b s)

end Chatflow
