namespace DacBank.ModuleValues

/-- Drops values at the end, or adds copies of `fill`. -/
def resize (count : Nat) (fill : Int32) (values : List Int32) : List Int32 :=
  values.take count ++ List.replicate (count - values.length) fill

/-- Gives every module of a list one value; modules beyond the last one are passed over. -/
def setAll (value : Int32) (modules : List Nat) (values : List Int32) : List Int32 :=
  modules.foldl (fun vs m => vs.set m value) values

@[simp] theorem length_resize (count : Nat) (fill : Int32) (values : List Int32) :
    (resize count fill values).length = count := by
  simp only [resize, List.length_append, List.length_take, List.length_replicate]
  omega

@[simp] theorem length_setAll (value : Int32) (modules : List Nat) (values : List Int32) :
    (setAll value modules values).length = values.length := by
  induction modules generalizing values with
  | nil => rfl
  | cons m rest ih => exact (ih (values.set m value)).trans (List.length_set ..)

end DacBank.ModuleValues
