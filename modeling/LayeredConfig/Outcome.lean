namespace LayeredConfig

/-- What merging leaves behind, and why it stopped if it did. -/
structure Outcome (ε α : Type) where
  value : α
  error : Option ε

namespace Outcome

variable {ε δ α β : Type}

def done (a : α) : Outcome ε α := ⟨a, none⟩

def failed (a : α) (e : ε) : Outcome ε α := ⟨a, some e⟩

def map (f : α → β) (o : Outcome ε α) : Outcome ε β := ⟨f o.value, o.error⟩

def mapError (f : ε → δ) (o : Outcome ε α) : Outcome δ α := ⟨o.value, o.error.map f⟩

/-- Goes on with another step unless this one failed. -/
def andThen (o : Outcome ε α) (next : α → Outcome ε α) : Outcome ε α :=
  match o.error with
  | none => next o.value
  | some _ => o

def each (step : α → β → Outcome ε α) : α → List β → Outcome ε α
  | a, [] => done a
  | a, b :: bs => (step a b).andThen fun a' => each step a' bs

def toExcept (o : Outcome ε α) : Except ε α :=
  match o.error with
  | none => .ok o.value
  | some e => .error e

end Outcome

end LayeredConfig
