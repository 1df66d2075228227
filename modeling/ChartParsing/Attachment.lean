/-!
# Values that comparison ignores

An `Attachment` travels with a thing without being part of its identity: any two
attachments are equal, whatever they hold.
-/

set_option autoImplicit false

namespace ChartParsing

/-- **A value that comparison does not see.** -/
structure Attachment (α : Type) where
  value : α

namespace Attachment

variable {α : Type}

instance : BEq (Attachment α) := ⟨fun _ _ => true⟩

instance : Ord (Attachment α) := ⟨fun _ _ => .eq⟩

instance : Std.TransOrd (Attachment α) where
  eq_swap := rfl
  isLE_trans _ _ := rfl

instance [Inhabited α] : Inhabited (Attachment α) := ⟨⟨default⟩⟩

/-- The printed form, given how the value is printed. -/
def display (showValue : α → String) (a : Attachment α) : String :=
  "NoCompare(" ++ showValue a.value ++ ")"

end Attachment

end ChartParsing
