import RoutedFields.Failure

/-!
# Results with a trace

A computation that reports what it does as it goes. Its messages are kept up to the point at which
it fails.

* `Traced`: messages, and a result or a failure.
* `Traced.report`: one message.
* `Traced.result_bind`, `Traced.result_pure`: the result does not depend on the messages.
-/

namespace RoutedFields

/-- Messages, and a result or a failure. -/
structure Traced (α : Type) where
  messages : List String
  result : Except Failure α

namespace Traced

variable {α β : Type}

/-- One computation after another. -/
def bind (x : Traced α) (f : α → Traced β) : Traced β :=
  match x.result with
  | .ok a => ⟨x.messages ++ (f a).messages, (f a).result⟩
  | .error failure => ⟨x.messages, .error failure⟩

instance : Monad Traced where
  pure a := ⟨[], .ok a⟩
  bind := bind

/-- A result without messages. -/
def ofExcept (result : Except Failure α) : Traced α := ⟨[], result⟩

/-- A failure without messages. -/
def fail (failure : Failure) : Traced α := ⟨[], .error failure⟩

/-- One message. -/
def report (message : String) : Traced Unit := ⟨[message], .ok ()⟩

@[simp] theorem result_pure (a : α) : (pure a : Traced α).result = .ok a := rfl

@[simp] theorem result_bind (x : Traced α) (f : α → Traced β) :
    (x >>= f).result = x.result.bind fun a => (f a).result := by
  cases h : x.result <;> simp [Bind.bind, bind, h, Except.bind]

@[simp] theorem result_ofExcept (result : Except Failure α) : (ofExcept result).result = result :=
  rfl

@[simp] theorem result_fail (failure : Failure) :
    (fail failure : Traced α).result = .error failure := rfl

@[simp] theorem result_report (message : String) : (report message).result = .ok () := rfl

end Traced
end RoutedFields
