namespace BeltGantry

/-!
# Results with notices

A computation that reports what it does returns its result together with the
notices it gave, in order.  A failure is a result like any other, so what was
noted before it is kept.
-/

/-- A result and the notices given on the way to it. -/
structure Noted (ν β : Type) where
  value : β
  notices : List ν

namespace Noted

variable {ν β γ : Type}

/-- A result without any notice. -/
def silent (value : β) : Noted ν β := ⟨value, []⟩

/-- One notice and no result. -/
def note (notice : ν) : Noted ν Unit := ⟨(), [notice]⟩

/-- Several notices and no result. -/
def noteAll (notices : List ν) : Noted ν Unit := ⟨(), notices⟩

/-- A result after a computation, with the notices of both in order. -/
def andThen (first : Noted ν β) (next : β → Noted ν γ) : Noted ν γ :=
  let second := next first.value
  ⟨second.value, first.notices ++ second.notices⟩

instance : Monad (Noted ν) where
  pure := silent
  bind := andThen

@[simp] theorem value_pure (value : β) : (pure value : Noted ν β).value = value := rfl

@[simp] theorem notices_pure (value : β) : (pure value : Noted ν β).notices = [] := rfl

@[simp] theorem value_bind (first : Noted ν β) (next : β → Noted ν γ) :
    (first >>= next).value = (next first.value).value := rfl

@[simp] theorem notices_bind (first : Noted ν β) (next : β → Noted ν γ) :
    (first >>= next).notices = first.notices ++ (next first.value).notices := rfl

/-- Notices are kept in order however the steps of a computation are grouped. -/
instance : LawfulMonad (Noted ν) := LawfulMonad.mk' (Noted ν)
  (fun noted => congrArg (Noted.mk noted.value) (List.append_nil noted.notices))
  (fun _ _ => rfl)
  (fun first second third => congrArg (Noted.mk _)
    (List.append_assoc first.notices (second first.value).notices
      (third (second first.value).value).notices))

@[simp] theorem value_map (rule : β → γ) (noted : Noted ν β) :
    (rule <$> noted).value = rule noted.value := rfl

@[simp] theorem notices_map (rule : β → γ) (noted : Noted ν β) :
    (rule <$> noted).notices = noted.notices := List.append_nil _

end Noted

end BeltGantry
