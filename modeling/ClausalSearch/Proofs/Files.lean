import ClausalSearch.Directory
import ClausalSearch.Proofs.Fallible

/-!
Files under flat names. Such a name leads to itself, so writing always succeeds there and replaces
the content of that file alone, and a text that is stored is read back.
-/
namespace ClausalSearch

/-- A name that a file of the directory can have: a single part of a path that is no folder. -/
structure FlatName (name : String) : Prop where
  filled : name ≠ ""
  single : '/' ∉ name.toList
  visible : '\x00' ∉ name.toList
  file : name ≠ "." ∧ name ≠ ".."
  short : name.utf8ByteSize ≤ maxNameBytes

theorem decodeText_toUTF8 (text : String) : decodeText text.toUTF8 = .ok text := by
  unfold decodeText
  rw [String.toUTF8_eq_toByteArray, String.fromUTF8?, dif_pos text.isValidUTF8]
  rfl

theorem lookup_cons_eq {β : Type} (key name : String) (value : β) (rest : List (String × β)) :
    ((key, value) :: rest).lookup name = if name = key then some value else rest.lookup name := by
  rw [List.lookup_cons]
  by_cases same : name = key
  · simp [same]
  · simp [same, beq_false_of_ne same]

namespace Directory

variable {d : Directory} {name other : String} {bytes : ByteArray}

theorem lookup_replaced (files : List (String × ByteArray)) :
    (files.map fun (old, content) => if old = name then (name, bytes) else (old, content)).lookup
      other = if other = name then (files.lookup name).map fun _ => bytes
        else files.lookup other := by
  induction files with
  | nil => simp
  | cons file rest ih =>
    obtain ⟨old, content⟩ := file
    by_cases replaced : old = name
    · subst replaced
      simp only [List.map_cons, if_true, lookup_cons_eq, ih, Option.map_some]
      by_cases same : other = old <;> simp [same]
    · simp only [List.map_cons, if_neg replaced, lookup_cons_eq, ih, if_neg (Ne.symm replaced)]
      by_cases same : other = name
      · simp [same, Ne.symm replaced]
      · simp [same]

theorem get?_put : (d.put name bytes).get? other =
    if other = name then some bytes else d.get? other := by
  unfold put
  split
  · rename_i stored
    obtain ⟨old, found⟩ := Option.isSome_iff_exists.1 stored
    have found : d.files.lookup name = some old := found
    rw [get?, lookup_replaced, found, Option.map_some, get?]
  · rename_i missing
    have absent : d.files.lookup name = none := by
      rwa [get?, Option.not_isSome_iff_eq_none] at missing
    rw [get?, List.lookup_append, lookup_cons_eq, List.lookup_nil, get?]
    by_cases same : other = name
    · rw [same, absent, if_pos rfl, Option.none_or]
    · rw [if_neg same, if_neg same, Option.or_none]

section Flat

variable (flat : FlatName name)
include flat

theorem pathParts_flat : pathParts name = [name] := by
  have filled : name.toList ≠ [] := by simpa using flat.filled
  rw [pathParts, List.splitOn_eq_singleton flat.single]
  simp [filled]

theorem locate_flat : d.locate name = .ok (.file 0 name) := by
  have inside : name.utf8ByteSize ≤ maxPathBytes :=
    Nat.le_trans flat.short (by decide)
  have relative : name.toList.head? ≠ some '/' :=
    fun first => flat.single (List.mem_of_mem_head? first)
  unfold locate
  rw [if_neg (by simpa using flat.visible), if_neg (by simpa using flat.filled),
    if_neg (Nat.not_lt.2 inside), if_neg relative, pathParts_flat flat, follow,
    if_neg flat.file.1, if_neg flat.file.2]
  rfl

theorem endsInSlash_flat : endsInSlash name = false := by
  have last : name.toList.getLast? ≠ some '/' :=
    fun last => flat.single (List.mem_of_mem_getLast? last)
  simpa [endsInSlash] using last

theorem find?_flat : d.find? 0 name = .ok (d.get? name) := by
  rw [find?, if_neg (Nat.not_lt.2 flat.short), if_pos rfl]

theorem write_flat (text : String) : d.write name text = .ok (d.put name text.toUTF8) := by
  rw [write, locate_flat flat, ok_bind]
  simp only [endsInSlash_flat flat, find?_flat flat]
  rfl

theorem readText_flat {text : String} (stored : d.get? name = some text.toUTF8) :
    d.readText name = .ok text := by
  have found : d.read name = .ok text.toUTF8 := by
    rw [read, locate_flat flat, ok_bind]
    simp only [find?_flat flat, stored, endsInSlash_flat flat]
    rfl
  rw [readText, found, ok_bind, decodeText_toUTF8]

end Flat

end Directory

end ClausalSearch
