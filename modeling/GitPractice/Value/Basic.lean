import GitPractice.Calendar
import GitPractice.Text.Numeral
import GitPractice.Value.Real64

/-!
# Values

Settings files, records and their exported forms are trees of values. What has no
parts is a scalar, and any scalar may be a key: in some formats a record may be
keyed by numbers or dates. A record keeps its keys in the order in which they
were added, since that order is written out; a key occurs in it once, and keys
that are equal as numbers are one key.
-/

namespace GitPractice

/-- A value without parts. -/
inductive Scalar where
  | null
  | bool (b : Bool)
  | int (n : Int)
  | real (x : Real64)
  | text (s : String)
  /-- A text that cannot be encoded, as halves of surrogate pairs stand alone in it; by its code points. -/
  | unpaired (points : List Nat)
  | bytes (raw : List UInt8)
  | date (d : Date)
  | time (t : TimeOfDay)
  | moment (m : Moment)
deriving DecidableEq, Inhabited

namespace Scalar

instance : Coe String Scalar := ⟨.text⟩

/-- The scalar that stands for all that are the same key: truth values and numbers without a fraction are
integers there, and moments are told by universal time if that is known. -/
def normal : Scalar → Scalar
  | bool b => int (if b then 1 else 0)
  | real x =>
    match x.integer? with
    | some n => int n
    | none => real x
  | moment m => moment m.universal
  | a => a

/-- Whether two scalars are the same key. -/
def same (a b : Scalar) : Bool := a.normal = b.normal

def text? : Scalar → Option String
  | text s => some s
  | _ => none

/-- Whether this is an integer of more digits than are written out. -/
def isTooLong : Scalar → Bool
  | int n => Text.tenTo Text.maxIntegerDigits ≤ n.natAbs
  | _ => false

theorem same_self (a : Scalar) : same a a = true := by simp [same]

theorem same_text_iff (a : Scalar) (s : String) : same a (.text s) = true ↔ a = .text s := by
  cases a with
  | real x => cases h : x.integer? <;> simp [same, normal, h]
  | _ => simp [same, normal]

end Scalar

inductive Value where
  | atom (a : Scalar)
  | list (items : List Value)
  | pair (first second : Value)
  | set (members : List Scalar)
  | record (fields : List (Scalar × Value))
  /-- A list or record that is kept apart, by its number among the parts. -/
  | shared (n : Nat)
  /-- A list or record that stands somewhere inside itself, at that place. -/
  | recurrence (isRecord : Bool)
deriving Inhabited

namespace Value

@[match_pattern] abbrev null : Value := .atom .null

@[match_pattern] abbrev bool (b : Bool) : Value := .atom (.bool b)

@[match_pattern] abbrev int (n : Int) : Value := .atom (.int n)

@[match_pattern] abbrev real (x : Real64) : Value := .atom (.real x)

@[match_pattern] abbrev text (s : String) : Value := .atom (.text s)

/-- A text or nothing. -/
def ofText? : Option String → Value
  | some s => text s
  | none => null

end Value

/-- The entries of a record, each a key with its value. -/
abbrev Fields := List (Scalar × Value)

namespace Fields

/-- The value of the first entry with this key. -/
def get? (key : Scalar) : Fields → Option Value
  | [] => none
  | (k, v) :: rest => if k.same key then some v else get? key rest

/-- Give `key` a value: in its place if it is there, at the end otherwise. -/
def set (key : Scalar) (value : Value) : Fields → Fields
  | [] => [(key, value)]
  | (k, v) :: rest => if k.same key then (k, value) :: rest else (k, v) :: set key value rest

def keys (fields : Fields) : List Scalar := fields.map Prod.fst

/-- Build a record from entries in which a later one overrides an earlier one of its key. -/
def ofEntries (entries : List (Scalar × Value)) : Fields :=
  entries.foldl (fun fields entry => fields.set entry.1 entry.2) []

theorem get?_set_self (fields : Fields) (key : Scalar) (value : Value) :
    get? key (set key value fields) = some value := by
  induction fields with
  | nil => simp [set, get?, Scalar.same_self]
  | cons entry rest ih =>
    obtain ⟨k, v⟩ := entry
    by_cases h : k.same key = true <;> simp [set, get?, h, ih]

theorem get?_set_of_not_same (fields : Fields) {key other : Scalar} (value : Value)
    (h : key.same other = false) : get? other (set key value fields) = get? other fields := by
  induction fields with
  | nil => simp [set, get?, h]
  | cons entry rest ih =>
    obtain ⟨k, v⟩ := entry
    by_cases hk : k.same key = true
    · have hko : k.same other = false := by
        simp only [Scalar.same, decide_eq_true_eq, decide_eq_false_iff_not] at hk h ⊢
        rw [hk]; exact h
      simp [set, get?, hk, hko]
    · by_cases ho : k.same other = true <;> simp [set, get?, hk, ho, ih]

theorem get?_set_text_of_ne (fields : Fields) {key other : String} (value : Value) (h : key ≠ other) :
    get? (.text other) (set (.text key) value fields) = get? (.text other) fields :=
  get?_set_of_not_same fields value (by simpa [Scalar.same, Scalar.normal] using h)

theorem keys_set {fields : Fields} {key : Scalar} (h : (fields.get? key).isSome = true) (v : Value) :
    (fields.set key v).keys = fields.keys := by
  induction fields with
  | nil => cases h
  | cons entry rest ih =>
    obtain ⟨k, w⟩ := entry
    rw [get?] at h
    rw [set]
    split
    · rfl
    next hk =>
      rw [if_neg hk] at h
      exact congrArg (k :: ·) (ih h)

theorem set_eq_self {fields : Fields} {key : Scalar} {v : Value} (h : fields.get? key = some v) :
    fields.set key v = fields := by
  induction fields with
  | nil => cases h
  | cons entry rest ih =>
    obtain ⟨k, w⟩ := entry
    rw [get?] at h
    rw [set]
    split at h
    next hk =>
      cases h
      rw [if_pos hk]
    next hk => rw [if_neg hk, ih h]

/-- A key that is not there goes to the end. -/
theorem set_of_new {fields : Fields} {key : Scalar} (h : ∀ entry ∈ fields, entry.1.same key = false) (v : Value) :
    fields.set key v = fields ++ [(key, v)] := by
  induction fields with
  | nil => rfl
  | cons entry rest ih =>
    obtain ⟨k, w⟩ := entry
    obtain ⟨hk, hrest⟩ := List.forall_mem_cons.mp h
    simp only [set, hk, Bool.false_eq_true, if_false, ih hrest, List.cons_append]

end Fields
end GitPractice
