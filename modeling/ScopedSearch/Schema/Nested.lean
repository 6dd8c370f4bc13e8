import ScopedSearch.Failure
import ScopedSearch.Catalog.FieldType

/-!
# Nested fields

The breadth-first walk over the nested fields of an index.  Every nested field becomes a type named
after it, so a name is taken up once, by the first index that has it; a later index may share it
only if the fields below are the same.
-/

namespace ScopedSearch

/-- A nested field that has been taken up: its name, the index that owns it, and what is below. -/
structure Claim where
  name : String
  owner : String
  fields : Fields
deriving Inhabited

/-- A nested field with the fields below it. -/
abbrev NestedType := String × Fields

namespace Nested

/-- The claim on a name. -/
def claimOf? (claims : List Claim) (name : String) : Option Claim :=
  claims.find? (·.name == name)

/-- Takes up a nested field: `true` when the name was free.  Another index that defines the name
differently is a conflict. -/
def claim (index : String) (field : NestedType) (claims : List Claim) :
    Except Failure (Bool × List Claim) :=
  match claimOf? claims field.1 with
  | none => .ok (true, claims ++ [⟨field.1, index, field.2⟩])
  | some c =>
    if c.owner != index && !FieldType.eqvFields c.fields field.2 then
      .error (.nestedConflict field.1 index c.owner)
    else .ok (false, claims)

def nestedOf (fields : Fields) : List NestedType :=
  (fields.filter (·.2.isNested)).map fun (n, t) => (n, t.subfields)

/-- Takes up nested fields in order; the new ones are returned. -/
def claimAll (index : String) :
    List NestedType → List Claim → Except Failure (List NestedType × List Claim)
  | [], claims => .ok ([], claims)
  | field :: rest, claims => do
    let (isNew, claims) ← claim index field claims
    let (news, claims) ← claimAll index rest claims
    return (if isNew then field :: news else news, claims)

/-! ### The measure of the walk -/

/-- How much is left to walk. -/
def pending : List NestedType → Nat
  | [] => 0
  | (_, fields) :: rest => 1 + FieldType.sizeAll fields + pending rest

theorem pending_append (xs ys : List NestedType) :
    pending (xs ++ ys) = pending xs + pending ys := by
  induction xs with
  | nil => simp [pending]
  | cons x xs ih =>
    obtain ⟨n, fs⟩ := x
    simp only [List.cons_append, pending, ih]
    omega

theorem pending_nestedOf (fields : Fields) :
    pending (nestedOf fields) ≤ FieldType.sizeAll fields := by
  induction fields with
  | nil => simp [nestedOf, pending, FieldType.sizeAll]
  | cons x xs ih =>
    obtain ⟨n, t⟩ := x
    by_cases h : t.isNested
    · simp only [nestedOf, List.filter_cons, h, if_true, List.map_cons, pending,
        FieldType.sizeAll] at ih ⊢
      rw [FieldType.size_eq]
      omega
    · simp only [nestedOf, List.filter_cons, h, FieldType.sizeAll] at ih ⊢
      simp only [Bool.false_eq_true, if_false]
      omega

theorem pending_claimAll {index : String} {fields : List NestedType} {claims : List Claim}
    {news : List NestedType} {after : List Claim}
    (h : claimAll index fields claims = .ok (news, after)) : pending news ≤ pending fields := by
  induction fields generalizing claims news after with
  | nil =>
    simp only [claimAll, Except.ok.injEq, Prod.mk.injEq] at h
    simp [← h.1, pending]
  | cons x xs ih =>
    obtain ⟨n, fs⟩ := x
    unfold claimAll at h
    cases hc : claim index (n, fs) claims with
    | error f => simp [hc, bind, Except.bind] at h
    | ok r =>
      obtain ⟨isNew, claims'⟩ := r
      cases hr : claimAll index xs claims' with
      | error f => simp [hc, hr, bind, Except.bind] at h
      | ok s =>
        obtain ⟨news', after'⟩ := s
        simp only [hc, hr, bind, Except.bind, pure, Except.pure, Except.ok.injEq,
          Prod.mk.injEq] at h
        have := ih hr
        rw [← h.1]
        split <;> simp only [pending] <;> omega

/-! ### The walk -/

/-- Walks a queue of nested fields that are taken up: each is put out, and the nested fields below
it that are new go to the end of the queue. -/
def walk (index : String) (queue : List NestedType) (claims : List Claim) :
    Except Failure (List NestedType × List Claim) :=
  match queue with
  | [] => .ok ([], claims)
  | field :: rest =>
    match _h : claimAll index (nestedOf field.2) claims with
    | .error f => .error f
    | .ok (news, claims) => do
      let (found, claims) ← walk index (rest ++ news) claims
      return (field :: found, claims)
termination_by pending queue
decreasing_by
  have h₁ := pending_claimAll _h
  have h₂ := pending_nestedOf field.2
  obtain ⟨n, fs⟩ := field
  simp only [pending_append, pending] at h₁ h₂ ⊢
  omega

/-- The nested fields of an index in breadth-first order, and the claims after them. -/
def discover (index : String) (fields : Fields) (claims : List Claim) :
    Except Failure (List NestedType × List Claim) := do
  let (queue, claims) ← claimAll index (nestedOf fields) claims
  walk index queue claims

end Nested

end ScopedSearch
