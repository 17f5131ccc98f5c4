/-!
# Joined texts

Texts written one after the other with a separator between them.
-/

namespace JiraQuery.Text

def joined (separator : String) : List String → String
  | [] => ""
  | [s] => s
  | s :: rest => s ++ separator ++ joined separator rest

@[simp] theorem joined_nil (sep : String) : joined sep [] = "" := rfl

@[simp] theorem joined_singleton (sep s : String) : joined sep [s] = s := rfl

theorem joined_cons_cons (sep s t : String) (rest : List String) :
    joined sep (s :: t :: rest) = s ++ sep ++ joined sep (t :: rest) := rfl

theorem joined_append {sep : String} : ∀ {xs ys : List String}, xs ≠ [] → ys ≠ [] →
    joined sep (xs ++ ys) = joined sep xs ++ sep ++ joined sep ys
  | [_], y :: ys, _, _ => by simp [joined]
  | x :: x' :: xs, ys, _, hy => by
    have ih : joined sep (x' :: xs ++ ys) = joined sep (x' :: xs) ++ sep ++ joined sep ys :=
      joined_append (by simp) hy
    simp only [List.cons_append] at ih ⊢
    rw [joined_cons_cons, joined_cons_cons, ih]
    simp [String.append_assoc]

end JiraQuery.Text
