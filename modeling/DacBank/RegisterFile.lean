import DacBank.Channel

namespace DacBank

/-- A finite map from registers, as a list of entries. -/
structure RegisterFile (α : Type) where
  entries : List (Register × α)

namespace RegisterFile

variable {α : Type}

def empty : RegisterFile α :=
  ⟨[]⟩

def lookup (r : Register) : List (Register × α) → Option α
  | [] => none
  | (k, a) :: rest => if k = r then some a else lookup r rest

def get? (f : RegisterFile α) (r : Register) : Option α :=
  lookup r f.entries

def replace (r : Register) (a : α) : List (Register × α) → List (Register × α)
  | [] => [(r, a)]
  | (k, b) :: rest => if k = r then (r, a) :: rest else (k, b) :: replace r a rest

def insert (f : RegisterFile α) (r : Register) (a : α) : RegisterFile α :=
  ⟨replace r a f.entries⟩

/-- Changes every entry, given its register. -/
def map (f : RegisterFile α) (g : Register → α → α) : RegisterFile α :=
  ⟨f.entries.map fun (r, a) => (r, g r a)⟩

theorem lookup_replace (r k : Register) (a : α) (es : List (Register × α)) :
    lookup k (replace r a es) = if r = k then some a else lookup k es := by
  induction es with
  | nil => simp [replace, lookup]
  | cons e es ih =>
    obtain ⟨q, b⟩ := e
    by_cases hq : q = r
    · subst hq
      by_cases hk : q = k <;> simp [replace, lookup, hk]
    · by_cases hk : q = k
      · subst hk
        simp [replace, lookup, hq, Ne.symm hq]
      · simp [replace, lookup, hq, hk, ih]

@[simp] theorem get?_insert (f : RegisterFile α) (r k : Register) (a : α) :
    (f.insert r a).get? k = if r = k then some a else f.get? k :=
  lookup_replace r k a f.entries

@[simp] theorem get?_empty (k : Register) : (empty : RegisterFile α).get? k = none :=
  rfl

@[simp] theorem get?_map (f : RegisterFile α) (g : Register → α → α) (k : Register) :
    (f.map g).get? k = (f.get? k).map (g k) := by
  obtain ⟨es⟩ := f
  simp only [get?, map]
  induction es with
  | nil => rfl
  | cons e es ih =>
    obtain ⟨q, b⟩ := e
    by_cases hq : q = k
    · subst hq; simp [lookup]
    · simp [lookup, hq, ih]

end RegisterFile

end DacBank
