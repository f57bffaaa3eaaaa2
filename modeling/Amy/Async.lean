import Amy.Connector

/-!
# Asynchronous operations and their completions

What both services share: the requests a caller can initiate, what a completion
handler is called with, and completions that carry the number of the operation
they belong to. Operations are numbered in initiation order.
-/

namespace Amy

/-- What a completion handler is called with: a code, and a result set where
the operation has one. -/
structure Outcome where
  code : ErrorCode
  rs : Option ResultSet
  deriving DecidableEq, Repr

structure Completion where
  id : Nat
  outcome : Outcome
  deriving DecidableEq, Repr

def Done.outcome {M : Type} (o : Done M) : Outcome := ⟨o.ec, none⟩

def Stored.outcome {M : Type} (o : Stored M) : Outcome := ⟨o.ec, some o.rs⟩

@[simp] theorem Done.outcome_code {M : Type} (o : Done M) : o.outcome.code = o.ec := rfl
@[simp] theorem Stored.outcome_code {M : Type} (o : Stored M) : o.outcome.code = o.ec := rfl

/-! ## Numbering the initiations of a run -/

section Marks

variable {α : Type} (initiates cuts : α → Bool)

/-- How many operations a list of actions initiates. -/
def initiations (as : List α) : Nat := as.countP initiates

/-- How many operations were initiated before the last action that `cuts`. -/
def cutoff (as : List α) : Nat :=
  (as.foldl (fun (m : Nat × Nat) a =>
    (if initiates a then m.1 + 1 else m.1, if cuts a then m.1 else m.2)) (0, 0)).2

@[simp] theorem initiations_snoc (as : List α) (a : α) :
    initiations initiates (as ++ [a]) =
      initiations initiates as + if initiates a then 1 else 0 := by
  simp [initiations, List.countP_append, List.countP_cons]

theorem marks_fst (as : List α) :
    (as.foldl (fun (m : Nat × Nat) a =>
      (if initiates a then m.1 + 1 else m.1, if cuts a then m.1 else m.2)) (0, 0)).1 =
      initiations initiates as := by
  induction as using List.reverseRecOn with
  | nil => rfl
  | append_singleton as a ih =>
    rw [List.foldl_append, initiations_snoc, ← ih]
    simp only [List.foldl_cons, List.foldl_nil]
    split <;> rfl

@[simp] theorem cutoff_nil : cutoff initiates cuts [] = 0 := rfl

@[simp] theorem cutoff_snoc (as : List α) (a : α) :
    cutoff initiates cuts (as ++ [a]) =
      if cuts a then initiations initiates as else cutoff initiates cuts as := by
  unfold cutoff
  rw [List.foldl_append, ← marks_fst initiates cuts]
  rfl

end Marks

end Amy
