import JobDispatch.Number.Binary64

/-!
JSON values, as entries and results carry them.

The members of an object are in ascending order of their keys, each key once; `Json.ofMembers`
brings members in any order into that form, the last of several with one key counting.
`Json.mentions` says whether a character occurs in any text inside a value.
-/

namespace JobDispatch

/-- A JSON value. Integers are those of 64 bits, signed or not; other numbers are floating. -/
inductive Json where
  | null
  | bool (value : Bool)
  | int (value : Int)
  | float (value : Binary64)
  | string (value : String)
  | array (items : List Json)
  | object (members : List (String × Json))
  deriving Repr, Inhabited

namespace Json

/-- The values that are kept as integers. -/
def IsInteger (n : Int) : Prop := -int64Bound ≤ n ∧ n < UInt64.size

instance (n : Int) : Decidable (IsInteger n) := by unfold IsInteger; infer_instance

/-- An integer, as a floating number where it exceeds 64 bits. -/
def ofInt (n : Int) : Json := if IsInteger n then int n else float (Binary64.ofInt n)

/-- A natural number. -/
def ofNat (n : Nat) : Json := ofInt n

/-- Puts a member in its place by key, instead of any with the same key. -/
def insertMember (key : String) (value : Json) : List (String × Json) → List (String × Json)
  | [] => [(key, value)]
  | (k, v) :: rest =>
    if key < k then (key, value) :: (k, v) :: rest
    else if key = k then (key, value) :: rest
    else (k, v) :: insertMember key value rest

/-- The object with the given members. -/
def ofMembers (members : List (String × Json)) : Json :=
  object (members.foldl (fun sorted m => insertMember m.1 m.2 sorted) [])

/-- The object without members. -/
def emptyObject : Json := object []

/-- The member of an object with the given key. -/
def get? (v : Json) (key : String) : Option Json :=
  match v with
  | object members => members.lookup key
  | _ => none

/-! ### Equality -/

mutual

/-- Equality of two values, decided. -/
def decEq : (a b : Json) → Decidable (a = b)
  | null, null => isTrue rfl
  | bool a, bool b => if h : a = b then isTrue (h ▸ rfl) else isFalse fun e => h (Json.bool.inj e)
  | int a, int b => if h : a = b then isTrue (h ▸ rfl) else isFalse fun e => h (Json.int.inj e)
  | float a, float b =>
    if h : a = b then isTrue (h ▸ rfl) else isFalse fun e => h (Json.float.inj e)
  | string a, string b =>
    if h : a = b then isTrue (h ▸ rfl) else isFalse fun e => h (Json.string.inj e)
  | array a, array b =>
    match decEqItems a b with
    | isTrue h => isTrue (h ▸ rfl)
    | isFalse h => isFalse fun e => h (Json.array.inj e)
  | object a, object b =>
    match decEqMembers a b with
    | isTrue h => isTrue (h ▸ rfl)
    | isFalse h => isFalse fun e => h (Json.object.inj e)
  | null, bool _ | null, int _ | null, float _ | null, string _ | null, array _ | null, object _
  | bool _, null | bool _, int _ | bool _, float _ | bool _, string _ | bool _, array _
  | bool _, object _ | int _, null | int _, bool _ | int _, float _ | int _, string _
  | int _, array _ | int _, object _ | float _, null | float _, bool _ | float _, int _
  | float _, string _ | float _, array _ | float _, object _ | string _, null | string _, bool _
  | string _, int _ | string _, float _ | string _, array _ | string _, object _ | array _, null
  | array _, bool _ | array _, int _ | array _, float _ | array _, string _ | array _, object _
  | object _, null | object _, bool _ | object _, int _ | object _, float _ | object _, string _
  | object _, array _ => isFalse (by intro e; cases e)

/-- Equality of the items of two arrays, decided. -/
def decEqItems : (a b : List Json) → Decidable (a = b)
  | [], [] => isTrue rfl
  | [], _ :: _ => isFalse (by intro e; cases e)
  | _ :: _, [] => isFalse (by intro e; cases e)
  | a :: as, b :: bs =>
    match decEq a b with
    | isFalse h => isFalse fun e => h (List.cons.inj e).1
    | isTrue h =>
      match decEqItems as bs with
      | isFalse h' => isFalse fun e => h' (List.cons.inj e).2
      | isTrue h' => isTrue (by rw [h, h'])

/-- Equality of the members of two objects, decided. -/
def decEqMembers : (a b : List (String × Json)) → Decidable (a = b)
  | [], [] => isTrue rfl
  | [], _ :: _ => isFalse (by intro e; cases e)
  | _ :: _, [] => isFalse (by intro e; cases e)
  | (k, a) :: as, (l, b) :: bs =>
    if hk : k = l then
      match decEq a b with
      | isFalse h => isFalse fun e => h (Prod.mk.inj (List.cons.inj e).1).2
      | isTrue h =>
        match decEqMembers as bs with
        | isFalse h' => isFalse fun e => h' (List.cons.inj e).2
        | isTrue h' => isTrue (by rw [hk, h, h'])
    else isFalse fun e => hk (Prod.mk.inj (List.cons.inj e).1).1

end

instance : DecidableEq Json := decEq

/-! ### Text inside a value -/

mutual

/-- The character occurs in a string or a key, at any depth. -/
def mentions (c : Char) : Json → Bool
  | null | bool _ | int _ | float _ => false
  | string s => s.toList.contains c
  | array items => itemsMention c items
  | object members => membersMention c members

/-- The character occurs in one of the items. -/
def itemsMention (c : Char) : List Json → Bool
  | [] => false
  | item :: rest => mentions c item || itemsMention c rest

/-- The character occurs in one of the keys or values. -/
def membersMention (c : Char) : List (String × Json) → Bool
  | [] => false
  | (key, value) :: rest => key.toList.contains c || mentions c value || membersMention c rest

end

end Json

end JobDispatch
