import Mathlib.Data.List.AList
import Mathlib.Data.BitVec
import Mathlib.Data.String.Basic

/-! # Sets, texts and numbers

The three typed values of the `types` package whose payload is not an `any`:
`types.Set` (a `map[string]bool`), `types.Text` (a string) and `types.Number` (an
`int64` updated with the wrapping atomic operations of `sync/atomic`). Each has a
`Clear` that its `ReleaseToPool` calls before pooling it.

`Append` keeps the text and adds the new content (`Wiredb.Text.size_append`,
`Wiredb.Text.contains_append`). The atomic add and subtract undo each other in 64-bit
arithmetic (`Wiredb.Number.sub_add`), and `CompareAndSwap` stores exactly when the
current value is the expected one (`Wiredb.Number.compareAndSwap_spec`).
-/

namespace Wiredb

/-- `types.Set`: the member map and the TTL the request carried. -/
structure Set where
  set : AList (fun _ : String => Bool)
  ttl : BitVec 64

namespace Set

/-- `NewSet`: an empty map and no TTL. -/
def newSet : Set := ⟨∅, 0⟩

/-- `Clear`: TTL 0 and an empty map. -/
def clear (s : Set) : Set := { s with ttl := 0, set := ∅ }

/-- `Set.Add`: `s.Set[value] = true`. -/
def add (s : Set) (value : String) : Set := { s with set := s.set.insert value true }

/-- `Set.Contains`: `s.Set[value]`, false for a missing value. -/
def contains (s : Set) (value : String) : Bool := (s.set.lookup value).getD false

/-- `Set.Remove`: `delete(s.Set, value)`. -/
def remove (s : Set) (value : String) : Set := { s with set := s.set.erase value }

/-- `Set.Size`. -/
def size (s : Set) : Nat := s.set.keys.length

theorem contains_add (s : Set) (value other : String) :
    (s.add value).contains other = (other == value || s.contains other) := by
  by_cases same : other = value
  · subst same
    simp [add, contains]
  · simp [add, contains, same, AList.lookup_insert_ne]

theorem contains_remove (s : Set) (value other : String) :
    (s.remove value).contains other = (other != value && s.contains other) := by
  by_cases same : other = value
  · subst same
    simp [remove, contains]
  · simp [remove, contains, same, AList.lookup_erase_ne]

end Set

/-- `types.Text`: the content and the TTL the request carried. -/
structure Text where
  content : String
  ttl : BitVec 64

namespace Text

/-- `NewText`. -/
def newText (content : String) : Text := ⟨content, 0⟩

/-- `Clear`: TTL 0 and the empty string. -/
def clear (text : Text) : Text := { text with ttl := 0, content := "" }

/-- `Text.Size`: `len(text.Content)`, the length in bytes. -/
def size (text : Text) : Nat := text.content.utf8ByteSize

/-- `Text.Append`. -/
def append (text : Text) (content : String) : Text :=
  { text with content := text.content ++ content }

/-- `Text.Contains`: `strings.Contains`, the target occurs in the content. -/
def contains (text : Text) (target : String) : Bool := decide (target.data <:+: text.content.data)

/-- `Text.Equals`: the contents agree, whatever the TTLs. -/
def equals (text other : Text) : Bool := text.content == other.content

/-- `Text.Clone`: a copy with content and TTL. -/
def clone (text : Text) : Text := ⟨text.content, text.ttl⟩

theorem size_append (text : Text) (content : String) :
    (text.append content).size = text.size + content.utf8ByteSize := by
  obtain ⟨⟨chars⟩, _⟩ := text
  obtain ⟨more⟩ := content
  exact String.utf8Len_append chars more

/-- After `Append` the text contains both what it held and what was appended. -/
theorem contains_append (text : Text) (content : String) :
    (text.append content).contains text.content = true ∧
      (text.append content).contains content = true := by
  simp only [contains, append, String.data_append, decide_eq_true_eq]
  exact ⟨(List.prefix_append _ _).isInfix, (List.suffix_append _ _).isInfix⟩

end Text

/-- `types.Number`: the `int64` value and the TTL the request carried. -/
structure Number where
  value : BitVec 64
  ttl : BitVec 64

namespace Number

/-- `NewNumber`. -/
def newNumber (num : BitVec 64) : Number := ⟨num, 0⟩

/-- `Clear`: TTL 0 and value 0. -/
def clear (num : Number) : Number := { num with ttl := 0, value := 0 }

/-- `Number.Add`: `atomic.AddInt64(&num.Value, delta)`, which wraps; the new value and
the number. -/
def add (num : Number) (delta : BitVec 64) : BitVec 64 × Number :=
  (num.value + delta, { num with value := num.value + delta })

/-- `Number.Sub`: `atomic.AddInt64(&num.Value, -delta)`. -/
def sub (num : Number) (delta : BitVec 64) : BitVec 64 × Number := num.add (-delta)

/-- `Number.Increment`. -/
def increment (num : Number) : BitVec 64 × Number := num.add 1

/-- `Number.Decrement`. -/
def decrement (num : Number) : BitVec 64 × Number := num.sub 1

/-- `Number.Set`. -/
def set (num : Number) (newValue : BitVec 64) : Number := { num with value := newValue }

/-- `Number.Get`. -/
def get (num : Number) : BitVec 64 := num.value

/-- `Number.CompareAndSwap`: store `new` only if the value is `old`; whether it did. -/
def compareAndSwap (num : Number) (old new : BitVec 64) : Bool × Number :=
  if num.value = old then (true, { num with value := new }) else (false, num)

/-- The wrapping value of `Add`, as a signed 64-bit integer. -/
theorem add_toInt (num : Number) (delta : BitVec 64) :
    (num.add delta).1.toInt = (num.value.toInt + delta.toInt).bmod (2 ^ 64) :=
  BitVec.toInt_add _ _

/-- Subtracting what was added gives the number back, overflow or not. -/
theorem sub_add (num : Number) (delta : BitVec 64) : ((num.add delta).2.sub delta).2 = num := by
  simp [add, sub, add_assoc]

theorem compareAndSwap_spec (num : Number) (old new : BitVec 64) :
    ((num.compareAndSwap old new).1 = true ↔ num.value = old) ∧
      (num.compareAndSwap old new).2.value = if num.value = old then new else num.value := by
  unfold compareAndSwap
  split <;> simp_all

end Number

end Wiredb
