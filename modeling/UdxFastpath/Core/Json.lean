import UdxFastpath.Foundation.ByteStrings

/-!
# JSON documents

What the program reads from its configuration files, as `jsoncpp` hands it over: a
`JsonValue`, and the accessors of `Json::Value` the program calls on one.

An accessor that does not fit the value throws.  Here it is `none`; nothing in the
program catches it.  Members are looked up by name, a member that is missing reads
as `null`, and a `null` can be asked for members like an object without any.
-/

namespace UdxFastpath

/-- `Json::Value`.  A number is an integer of at most 64 bits, or a finite double: the rational
it stands for. -/
inductive JsonValue
  | null
  | boolean (b : Bool)
  | int (n : ℤ)
  | real (q : Rat)
  | string (bytes : List UInt8)
  | array (items : List JsonValue)
  | object (members : List (List UInt8 × JsonValue))

namespace JsonValue

instance : Inhabited JsonValue := ⟨.null⟩

/-- The members, of a value that can have some. -/
def members : JsonValue → Option (List (List UInt8 × JsonValue))
  | null => some []
  | object members => some members
  | _ => none

/-- `isMember(key)`. -/
def isMember (v : JsonValue) (key : List UInt8) : Option Bool :=
  v.members.map fun members => (members.lookup key).isSome

/-- `value[key]`. -/
def get (v : JsonValue) (key : List UInt8) : Option JsonValue :=
  v.members.map fun members => (members.lookup key).getD null

/-- The member with a name, if there is one. -/
def find (v : JsonValue) (key : List UInt8) : Option JsonValue := v.members.bind (·.lookup key)

/-- `isString()`. -/
def isString : JsonValue → Bool
  | string _ => true
  | _ => false

/-- `asString()` of a value for which `isString()` holds. -/
def text : JsonValue → List UInt8
  | string bytes => bytes
  | _ => []

/-- `isArray()`. -/
def isArray : JsonValue → Bool
  | array _ => true
  | _ => false

/-- The entries a loop over an array visits. -/
def items : JsonValue → List JsonValue
  | array items => items
  | _ => []

/-- The values an iterator over an array or an object visits. -/
def children : JsonValue → List JsonValue
  | array items => items
  | object members => members.map Prod.snd
  | _ => []

/-- `size()`: only arrays and objects have one. -/
def size (v : JsonValue) : ℕ := v.children.length

/-- The range of an `int`. -/
def FitsInt (n : ℤ) : Prop := -2147483648 ≤ n ∧ n ≤ 2147483647

instance (n : ℤ) : Decidable (FitsInt n) := inferInstanceAs (Decidable (_ ∧ _))

/-- The range of an `int64_t`. -/
def FitsInt64 (n : ℤ) : Prop := -9223372036854775808 ≤ n ∧ n ≤ 9223372036854775807

instance (n : ℤ) : Decidable (FitsInt64 n) := inferInstanceAs (Decidable (_ ∧ _))

/-- `asBool()`. -/
def asBool : JsonValue → Option Bool
  | null => some false
  | boolean b => some b
  | int n => some (n != 0)
  | real q => some (q.num != 0)
  | _ => none

/-- `asString()`; the text of a double is that of `showDouble`. -/
def asString (showDouble : Rat → List UInt8) : JsonValue → Option (List UInt8)
  | null => some []
  | boolean b => some (ByteStrings.ascii (if b then "true" else "false"))
  | int (.ofNat n) => some (ByteStrings.decimal n)
  | int (.negSucc n) => some (ByteStrings.ascii "-" ++ ByteStrings.decimal (n + 1))
  | real q => some (showDouble q)
  | string bytes => some bytes
  | _ => none

/-- `asInt()`: a double is cut off behind the point. -/
def asInt : JsonValue → Option ℤ
  | null => some 0
  | boolean b => some b.toNat
  | int n => if FitsInt n then some n else none
  | real q =>
      if -2147483648 * q.den ≤ q.num ∧ q.num ≤ 2147483647 * q.den then some (q.num.tdiv q.den)
      else none
  | _ => none

/-- `asInt64()`. -/
def asInt64 : JsonValue → Option ℤ
  | null => some 0
  | boolean b => some b.toNat
  | int n => if FitsInt64 n then some n else none
  | real q =>
      if -9223372036854775808 * q.den ≤ q.num ∧ q.num < 9223372036854775808 * q.den then
        some (q.num.tdiv q.den)
      else none
  | _ => none

/-- `asInt64()` of a value for which `isInt64()` holds. -/
def int64 : JsonValue → Option ℤ
  | int n => if FitsInt64 n then some n else none
  | real q => if q.den = 1 ∧ FitsInt64 q.num then some q.num else none
  | _ => none

/-- `asInt()` of a value for which `isInt()` holds. -/
def int32 : JsonValue → Option ℤ
  | int n => if FitsInt n then some n else none
  | real q => if q.den = 1 ∧ FitsInt q.num then some q.num else none
  | _ => none

/-- A small number is one in 32 bits as well. -/
theorem int32_of_int64 {v : JsonValue} {n : ℤ} (h : v.int64 = some n) (hn : FitsInt n) :
    v.int32 = some n := by
  cases v with
  | int m =>
      simp only [int64] at h
      split at h
      · obtain rfl := Option.some.inj h
        rw [int32, if_pos hn]
      · cases h
  | real q =>
      simp only [int64] at h
      split at h
      · rename_i hq
        obtain rfl := Option.some.inj h
        rw [int32, if_pos ⟨hq.1, hn⟩]
      · cases h
  | _ => cases h

section Members

variable {v : JsonValue} {key : List UInt8}

theorem isMember_eq {members : List (List UInt8 × JsonValue)} (h : v.members = some members) :
    v.isMember key = some (v.find key).isSome := by
  rw [isMember, find, h]
  rfl

theorem get_eq {members : List (List UInt8 × JsonValue)} (h : v.members = some members) :
    v.get key = some ((v.find key).getD null) := by
  rw [get, find, h]
  rfl

theorem exists_members_of_find {w : JsonValue} (h : v.find key = some w) :
    ∃ members, v.members = some members := by
  obtain ⟨members, hmembers, -⟩ := Option.bind_eq_some_iff.mp h
  exact ⟨members, hmembers⟩

end Members

end JsonValue

end UdxFastpath
