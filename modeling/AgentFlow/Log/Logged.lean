import AgentFlow.Log.Record

/-!
# Computations that log

A computation that logs gives its answer, or an error, and the records it made on
the way.  The records never decide the answer: `result_bind` shows that the answers
compose as if nothing were logged.
-/

namespace AgentFlow

/-- An answer or an error, with the records made before it was known. -/
structure Logged (ε α : Type) where
  records : List Log.Record
  result : Except ε α

namespace Logged

variable {ε α β : Type}

/-- An answer without records. -/
def ofExcept (result : Except ε α) : Logged ε α := ⟨[], result⟩

/-- Make one record. -/
def tell (level : Log.Level) (logger message : String) : Logged ε Unit :=
  ⟨[⟨level, logger, message⟩], .ok ()⟩

/-- Go on from an answer; after an error there is nothing to go on from. -/
def andThen (first : Logged ε α) (next : α → Logged ε β) : Logged ε β :=
  match first.result with
  | .error e => ⟨first.records, .error e⟩
  | .ok a => ⟨first.records ++ (next a).records, (next a).result⟩

instance : Monad (Logged ε) where
  pure a := ⟨[], .ok a⟩
  bind := andThen

instance : MonadExceptOf ε (Logged ε) where
  throw e := ⟨[], .error e⟩
  tryCatch x handle :=
    match x.result with
    | .ok _ => x
    | .error e => ⟨x.records ++ (handle e).records, (handle e).result⟩

instance : MonadLift (Except ε) (Logged ε) where
  monadLift := ofExcept

@[simp] theorem result_pure (a : α) : (pure a : Logged ε α).result = .ok a := rfl

@[simp] theorem result_ofExcept (result : Except ε α) : (ofExcept result).result = result := rfl

/-- The answers compose as if nothing were logged. -/
@[simp] theorem result_bind (first : Logged ε α) (next : α → Logged ε β) :
    (first >>= next).result = first.result >>= fun a => (next a).result := by
  show (first.andThen next).result = _
  unfold andThen
  cases first.result <;> rfl

/-- A record changes no answer. -/
@[simp] theorem result_tell (level : Log.Level) (logger message : String) :
    (tell level logger message : Logged ε Unit).result = .ok () := rfl

end Logged

end AgentFlow
