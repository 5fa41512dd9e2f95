import ClassNav.Text.Basic

/-!
Values that come with notes on how they were found.
-/

namespace ClassNav

inductive Level
  | debug
  | info
  | warn
  deriving DecidableEq, Repr

structure Note where
  level : Level
  text : Text
  deriving DecidableEq, Repr

structure Logged (α : Type) where
  value : α
  notes : List Note

namespace Logged

def note (level : Level) (text : Text) : Logged Unit := ⟨(), [⟨level, text⟩]⟩

instance : Monad Logged where
  pure a := ⟨a, []⟩
  bind x f := ⟨(f x.value).value, x.notes ++ (f x.value).notes⟩

@[simp] theorem value_pure {α : Type} (a : α) : (pure a : Logged α).value = a := rfl

@[simp] theorem value_bind {α β : Type} (x : Logged α) (f : α → Logged β) :
    (x >>= f).value = (f x.value).value := rfl

@[simp] theorem value_map {α β : Type} (f : α → β) (x : Logged α) :
    (f <$> x).value = f x.value := rfl

@[simp] theorem value_note (level : Level) (text : Text) : (note level text).value = () := rfl

end Logged

end ClassNav
