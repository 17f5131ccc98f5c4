/-!
# Members of an object

Named values in ascending order of their names, each name once. Text is compared by code points.
-/

namespace JiraQuery

/-- Named values; `Members.ofList` brings them into order. -/
abbrev Members (α : Type) := List (String × α)

namespace Members

variable {α : Type}

/-- Sets the value of a name. -/
def insert (name : String) (value : α) : Members α → Members α
  | [] => [(name, value)]
  | m :: ms =>
    if name = m.1 then (name, value) :: ms
    else if name < m.1 then (name, value) :: m :: ms
    else m :: insert name value ms

/-- Of a repeated name the last value counts. -/
def ofList (ms : List (String × α)) : Members α :=
  ms.foldl (fun acc m => insert m.1 m.2 acc) []

def get? (ms : Members α) (name : String) : Option α :=
  List.lookup name ms

@[simp] theorem get?_nil (name : String) : get? ([] : Members α) name = none := rfl

theorem get?_cons (m : String × α) (ms : Members α) (name : String) :
    get? (m :: ms) name = if name = m.1 then some m.2 else get? ms name := by
  unfold get?
  rw [List.lookup_cons]
  by_cases h : name = m.1
  · simp [h]
  · simp [h, beq_false_of_ne h]

theorem get?_insert (ms : Members α) (k : String) (v : α) (name : String) :
    get? (insert k v ms) name = if name = k then some v else get? ms name := by
  induction ms with
  | nil => simp [insert, get?_cons]
  | cons m ms ih =>
    unfold insert
    split
    · next h => subst h; simp only [get?_cons]; split <;> simp_all
    · split
      · simp [get?_cons]
      · next h _ => simp only [get?_cons, ih]; split <;> split <;> simp_all

end Members

end JiraQuery
