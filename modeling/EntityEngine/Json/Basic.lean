/-!
JSON values. Integers and doubles stay distinct, and an object keeps its entries in ascending
order of their keys.
-/

namespace EntityEngine

inductive Json where
  | null
  | bool (b : Bool)
  | integer (n : Int)
  | real (x : Float)
  | text (s : String)
  | array (items : List Json)
  | object (entries : List (String × Json))
  deriving Repr, Inhabited

namespace Json

mutual

def decEq : (a b : Json) → Decidable (a = b)
  | .null, b => by cases b <;> first | exact isTrue rfl | exact isFalse (by simp)
  | .bool x, b => by
    cases b with
    | bool y => exact decidable_of_iff (x = y) (by simp)
    | _ => exact isFalse (by simp)
  | .integer x, b => by
    cases b with
    | integer y => exact decidable_of_iff (x = y) (by simp)
    | _ => exact isFalse (by simp)
  | .real x, b => by
    cases b with
    | real y => exact decidable_of_iff (x = y) (by simp)
    | _ => exact isFalse (by simp)
  | .text x, b => by
    cases b with
    | text y => exact decidable_of_iff (x = y) (by simp)
    | _ => exact isFalse (by simp)
  | .array xs, b => by
    cases b with
    | array ys => exact @decidable_of_iff _ (xs = ys) (by simp) (decEqItems xs ys)
    | _ => exact isFalse (by simp)
  | .object xs, b => by
    cases b with
    | object ys => exact @decidable_of_iff _ (xs = ys) (by simp) (decEqEntries xs ys)
    | _ => exact isFalse (by simp)

def decEqItems : (xs ys : List Json) → Decidable (xs = ys)
  | [], [] => isTrue rfl
  | [], _ :: _ => isFalse (by simp)
  | _ :: _, [] => isFalse (by simp)
  | x :: xs, y :: ys =>
    match decEq x y, decEqItems xs ys with
    | isTrue h, isTrue k => isTrue (by rw [h, k])
    | isFalse h, _ => isFalse (by simp [h])
    | _, isFalse k => isFalse (by simp [k])

def decEqEntries : (xs ys : List (String × Json)) → Decidable (xs = ys)
  | [], [] => isTrue rfl
  | [], _ :: _ => isFalse (by simp)
  | _ :: _, [] => isFalse (by simp)
  | (k, x) :: xs, (l, y) :: ys =>
    if hk : k = l then
      match decEq x y, decEqEntries xs ys with
      | isTrue h, isTrue t => isTrue (by rw [hk, h, t])
      | isFalse h, _ => isFalse (by simp [h])
      | _, isFalse t => isFalse (by simp [t])
    else isFalse (by simp [hk])

end

instance : DecidableEq Json := decEq

def isNull : Json → Bool
  | .null => true
  | _ => false

def ofText? : Option String → Json
  | some s => .text s
  | none => .null

def ofInteger? : Option Int → Json
  | some n => .integer n
  | none => .null

end Json

/-- A map from names to values, kept in ascending order of the names. -/
abbrev ValueMap := List (String × Json)

namespace ValueMap

def get? (m : ValueMap) (key : String) : Option Json := List.lookup key m

def contains (m : ValueMap) (key : String) : Bool := (m.get? key).isSome

/-- The map with a value under a key, in place of an earlier one. -/
def insert (key : String) (value : Json) : ValueMap → ValueMap
  | [] => [(key, value)]
  | (k, v) :: m =>
    if key < k then (key, value) :: (k, v) :: m
    else if key = k then (key, value) :: m
    else (k, v) :: insert key value m

/-- Later entries of one key replace earlier ones. -/
def ofEntries (entries : List (String × Json)) : ValueMap :=
  entries.foldl (fun m (k, v) => insert k v m) []

/-- The entries whose key passes a test. -/
def restrict (keep : String → Bool) (m : ValueMap) : ValueMap := m.filter fun (k, _) => keep k

theorem get?_insert_self (key : String) (value : Json) (m : ValueMap) :
    (insert key value m).get? key = some value := by
  induction m with
  | nil => simp [insert, get?]
  | cons e m ih =>
    obtain ⟨k, v⟩ := e
    simp only [insert]
    split
    · simp [get?]
    · split
      · simp [get?]
      · next h =>
        have hk : (key == k) = false := by simpa using h
        simpa [get?, List.lookup_cons, hk] using ih

theorem get?_insert_of_ne {key other : String} (value : Json) (m : ValueMap) (h : other ≠ key) :
    (insert key value m).get? other = m.get? other := by
  have ho : (other == key) = false := by simpa using h
  induction m with
  | nil => simp [insert, get?, List.lookup_cons, ho]
  | cons e m ih =>
    obtain ⟨k, v⟩ := e
    simp only [insert]
    split
    · simp [get?, List.lookup_cons, ho]
    · split
      · next hk => subst hk; simp [get?, List.lookup_cons, ho]
      · simp only [get?, List.lookup_cons] at ih ⊢
        rw [ih]

end ValueMap

end EntityEngine
