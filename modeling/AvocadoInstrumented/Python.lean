import Mathlib.Algebra.Order.Field.Rat

namespace AvocadoInstrumented

-- A Python float as the runner meets one. Clock readings are finite and kept exact (the
-- rounding of float subtraction is not modelled); `float("inf")` and NaN stay distinct.
inductive PyFloat where
  | finite (x : ℚ)
  | inf
  | negInf
  | nan
  deriving DecidableEq, Repr

-- `elapsed > t` for a finite `elapsed`: never past `inf`, every comparison with NaN is false.
def PyFloat.exceeded : PyFloat → ℚ → Bool
  | .finite t,elapsed => decide (t < elapsed)
  | .inf,_ => false
  | .negInf,_ => true
  | .nan,_ => false

@[simp] theorem exceeded_inf (elapsed : ℚ) : PyFloat.inf.exceeded elapsed = false := rfl

-- An exception as a handler reads it: its class name, what `str(e)` gives, the text
-- `traceback.format_exc()` gives while it is handled, and whether `except Exception` catches it
-- (`SystemExit` and `KeyboardInterrupt` are not `Exception`s). `strRaises` is one whose
-- `__str__` raises `raised`.
inductive PyException where
  | mk (cls : String) (str : String) (traceback : String) (isException : Bool)
  | strRaises (cls : String) (raised : PyException) (traceback : String) (isException : Bool)
  deriving DecidableEq, Repr

namespace PyException

def cls : PyException → String
  | mk cls .. | strRaises cls .. => cls

def traceback : PyException → String
  | mk _ _ traceback _ | strRaises _ _ traceback _ => traceback

def isException : PyException → Bool
  | mk _ _ _ isException | strRaises _ _ _ isException => isException

-- `str(e)`, which raises what `__str__` raises.
def toStr : PyException → Except PyException String
  | mk _ str _ _ => .ok str
  | strRaises _ raised _ _ => .error raised

def str (e : PyException) : Option String := e.toStr.toOption

theorem toStr_of_str {e : PyException} (returns : e.str = some reason) : e.toStr = .ok reason := by
  cases e <;> simp_all [str,toStr,Except.toOption]

-- An exception a builtin raises. The frames of its traceback are not modelled: the text
-- is its last line.
def builtin (cls message : String) : PyException := mk cls message (cls ++ ": " ++ message) true

end PyException

-- A value of a message field. `object` is any other value, by its class name, its truth
-- value and what its `__float__` returns (none: `float()` raises `TypeError`).
inductive PyValue where
  | none
  | bool (b : Bool)
  | int (n : Int)
  | float (x : PyFloat)
  | str (s : String)
  | object (cls : String) (truthy : Bool) (float : Option PyFloat)
  deriving DecidableEq, Repr

def PyValue.truthy : PyValue → Bool
  | .none => false
  | .bool b => b
  | .int n => n != 0
  | .float x => x != .finite 0
  | .str s => !s.isEmpty
  | .object _ truthy _ => truthy

def PyValue.typeName : PyValue → String
  | .none => "NoneType"
  | .bool _ => "bool"
  | .int _ => "int"
  | .float _ => "float"
  | .str _ => "str"
  | .object cls _ _ => cls

-- `float(v)`. CPython's parser of numeric strings is `parse`; ints convert exactly (the
-- `OverflowError` of ints past the float range is not modelled).
def PyValue.toFloat (parse : String → Option PyFloat) : PyValue → Except PyException PyFloat
  | .bool b => .ok (.finite (if b then 1 else 0))
  | .int n => .ok (.finite n)
  | .float x => .ok x
  | .str s => match parse s with
    | some x => .ok x
    | _ => .error (.builtin "ValueError" ("could not convert string to float: \x27" ++ s ++ "\x27"))
  | .object _ _ (some x) => .ok x
  | v => .error (.builtin "TypeError"
      ("float() argument must be a string or a real number, not \x27" ++ v.typeName ++ "\x27"))

-- A dict with string keys, in insertion order.
abbrev Dict := List (String × PyValue)

-- `d.get(key)`: `None` for a missing key.
def Dict.get (d : Dict) (key : String) : PyValue :=
  match d.find? (·.1 == key) with
  | some entry => entry.2
  | none => .none

-- `d[key]`, which raises `KeyError` for a missing key.
def Dict.item (d : Dict) (key : String) : Except PyException PyValue :=
  match d.find? (·.1 == key) with
  | some entry => .ok entry.2
  | none => .error (.builtin "KeyError" ("\x27" ++ key ++ "\x27"))

-- `d[key] = value`: replaces the value in place, or appends a new key.
def Dict.set (d : Dict) (key : String) (value : PyValue) : Dict :=
  if d.any (·.1 == key) then d.map fun entry => if entry.1 == key then (key,value) else entry
  else d ++ [(key,value)]

theorem find_set_self (d : Dict) (key : String) (value : PyValue) :
    (d.set key value).find? (·.1 == key) = some (key,value) := by
  unfold Dict.set
  split
  · rename_i present
    induction d with
    | nil => simp at present
    | cons entry rest ih =>
        by_cases same : entry.1 = key
        · simp [same]
        · have other : (entry.1 == key) = false := by simpa using same
          simp only [List.any_cons,other,Bool.false_or] at present
          simpa [same] using ih present
  · rename_i absent
    rw [List.find?_append]
    have missing : d.find? (·.1 == key) = none :=
      List.find?_eq_none.mpr fun entry member found => absent (List.any_eq_true.mpr ⟨entry,member,found⟩)
    simp [missing]

@[simp] theorem get_set_self (d : Dict) (key : String) (value : PyValue) :
    (d.set key value).get key = value := by
  simp [Dict.get,find_set_self]

-- `s.split(sep, 1)`: the parts around the first `sep`, or `[s]` when there is none.
def splitFirst (sep : Char) : List Char → Option (List Char × List Char)
  | [] => none
  | c :: rest => if c = sep then some ([],rest) else (splitFirst sep rest).map fun (a,b) => (c :: a,b)

def pySplit1 (s : String) (sep : Char) : List String :=
  match splitFirst sep s.data with
  | some (before,after) => [⟨before⟩,⟨after⟩]
  | none => [s]

-- `a, b = parts`
def unpack2 : List String → Except PyException (String × String)
  | [a,b] => .ok (a,b)
  | parts => .error (.builtin "ValueError"
      ("not enough values to unpack (expected 2, got " ++ toString parts.length ++ ")"))

theorem splitFirst_append (sep : Char) (before after : List Char) (free : sep ∉ before) :
    splitFirst sep (before ++ sep :: after) = some (before,after) := by
  induction before with
  | nil => simp [splitFirst]
  | cons c rest ih =>
      have other : c ≠ sep := fun same => free (same ▸ List.mem_cons_self c rest)
      simp [splitFirst,other,ih (fun inRest => free (List.mem_cons_of_mem c inRest))]

theorem splitFirst_of_mem (sep : Char) (chars : List Char) (present : sep ∈ chars) :
    ∃ before after, splitFirst sep chars = some (before,after) := by
  induction chars with
  | nil => cases present
  | cons c rest ih =>
      by_cases same : c = sep
      · exact ⟨[],rest,by simp [splitFirst,same]⟩
      · obtain ⟨before,after,split⟩ := ih ((List.mem_cons.mp present).resolve_left fun h => same h.symm)
        exact ⟨c :: before,after,by simp [splitFirst,same,split]⟩

theorem pySplit1_of_mem (s : String) (sep : Char) (present : sep ∈ s.data) : ∃ before after, pySplit1 s sep = [before,after] := by
  obtain ⟨before,after,split⟩ := splitFirst_of_mem sep s.data present
  exact ⟨⟨before⟩,⟨after⟩,by simp [pySplit1,split]⟩

theorem pySplit1_of_data (s before after : String) (sep : Char) (parts : s.data = before.data ++ sep :: after.data)
    (free : sep ∉ before.data) : pySplit1 s sep = [before,after] := by
  simp [pySplit1,parts,splitFirst_append sep before.data after.data free]

-- `v.lower()`: CPython's `str.lower`, which lowers every cased letter, is `lower`.
def pyLower (lower : String → String) : PyValue → Except PyException String
  | .str s => .ok (lower s)
  | v => .error (.builtin "AttributeError"
      ("\x27" ++ v.typeName ++ "\x27 object has no attribute \x27lower\x27"))

end AvocadoInstrumented
