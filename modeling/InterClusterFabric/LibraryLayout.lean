import InterClusterFabric.LibraryReader

/-! Fixed layouts. Fields are read at their offsets; a field written at its place is read back
whatever stands around it. -/
namespace InterClusterFabric.LibraryLayout
open LibraryReader

def slice (bytes : List UInt8) (offset count : ℕ) : List UInt8 := (bytes.drop offset).take count

/-- The unsigned big-endian number of `width` bytes at `offset`. -/
def uintAt (bytes : List UInt8) (offset width : ℕ) : ℕ := beNat (slice bytes offset width)

lemma slice_eq {bytes p field r : List UInt8} {offset count : ℕ} (h : bytes = p ++ (field ++ r))
    (hoffset : p.length = offset) (hcount : field.length = count) : slice bytes offset count = field := by
  subst h hoffset hcount
  simp [slice]

/-- A record is the concatenation of its fields: the field of a given index starts after the
fields before it. -/
lemma slice_flatten {bytes : List UInt8} {fields : List (List UInt8)} (h : bytes = fields.flatten) (i : ℕ)
    {field : List UInt8} {offset count : ℕ} (hfield : fields[i]? = some field)
    (hoffset : ((fields.map List.length).take i).sum = offset) (hcount : field.length = count) :
    slice bytes offset count = field := by
  obtain ⟨hi, hget⟩ := List.getElem?_eq_some_iff.mp hfield
  have hsplit : fields.flatten = (fields.take i).flatten ++ (field ++ (fields.drop (i + 1)).flatten) := by
    rw [← hget, ← List.flatten_cons, ← List.drop_eq_getElem_cons hi, ← List.flatten_append,
      List.take_append_drop]
  exact slice_eq (h.trans hsplit) (by rw [List.length_flatten, List.map_take, hoffset]) hcount

lemma uintAt_flatten {bytes : List UInt8} {fields : List (List UInt8)} (h : bytes = fields.flatten) (i : ℕ)
    {offset width n : ℕ} (hfield : fields[i]? = some (beBytes width n))
    (hoffset : ((fields.map List.length).take i).sum = offset) (hn : n < 256 ^ width) :
    uintAt bytes offset width = n := by
  rw [uintAt, slice_flatten h i hfield hoffset (beBytes_length width n), beNat_beBytes hn]

lemma take_eq {bytes p r : List UInt8} {count : ℕ} (h : bytes = p ++ r) (hcount : p.length = count) :
    bytes.take count = p := by
  subst h hcount
  simp

lemma drop_eq {bytes p r : List UInt8} {count : ℕ} (h : bytes = p ++ r) (hcount : p.length = count) :
    bytes.drop count = r := by
  subst h hcount
  simp

/-! Taking a layout apart. -/

lemma drop_eq_slice_append (bytes : List UInt8) (offset count : ℕ) :
    bytes.drop offset = slice bytes offset count ++ bytes.drop (offset + count) := by
  rw [slice, ← List.drop_drop, List.take_append_drop]

lemma take_eq_append_slice (bytes : List UInt8) (offset count : ℕ) :
    bytes.take (offset + count) = bytes.take offset ++ slice bytes offset count := by
  rw [slice, List.take_add]

lemma slice_length {bytes : List UInt8} {offset count : ℕ} (h : offset + count ≤ bytes.length) :
    (slice bytes offset count).length = count := by
  rw [slice, List.length_take, List.length_drop]
  omega

lemma beBytes_uintAt {bytes : List UInt8} (offset width : ℕ) (h : offset + width ≤ bytes.length) :
    beBytes width (uintAt bytes offset width) = slice bytes offset width := by
  have hback := beBytes_beNat (slice bytes offset width)
  rwa [slice_length h] at hback

lemma uintAt_lt {bytes : List UInt8} (offset width : ℕ) (h : offset + width ≤ bytes.length) :
    uintAt bytes offset width < 256 ^ width := by
  have hlt := beNat_lt (slice bytes offset width)
  rwa [slice_length h] at hlt

end InterClusterFabric.LibraryLayout
