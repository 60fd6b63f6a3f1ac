import Mathlib
import PackageLint.File.Tree

/-!
# Where paths lead

A directory holds one entry for a name. A path that never goes back leads from a directory to what
its names lead to one after the other, wherever the directory stands.

## Main definitions

* `FileEntry.IsTree`: no directory holds two entries with the same name;
* `Path.descend`: the path to something below a directory.

## Main results

* `FileEntry.mem_iff_lookup_eq_some`: the entries of a directory are those that its names lead to;
* `FileEntry.follow_append`: a path that leads on from where another one ends;
* `Disk.find_descend`: what is below the directory at a path.
-/

namespace PackageLint

namespace FileEntry

/-- No directory of the tree holds two entries with the same name. -/
inductive IsTree : FileEntry → Prop
  /-- A file holds no entries. -/
  | file (bytes : List UInt8) : IsTree (.file bytes)
  /-- Neither does one that may not be opened. -/
  | locked : IsTree .locked
  /-- A directory holds each name once, and its entries are trees. -/
  | directory {entries : List (String × FileEntry)} (nodup : (entries.map (·.1)).Nodup)
      (below : ∀ entry ∈ entries, IsTree entry.2) : IsTree (.directory entries)

variable {entries : List (String × FileEntry)}

/-- Where each name stands once, an entry is the one that its name leads to. -/
theorem mem_iff_lookup_eq_some (h : (entries.map (·.1)).Nodup) {name : String}
    {entry : FileEntry} : (name, entry) ∈ entries ↔ entries.lookup name = some entry := by
  induction entries with
  | nil => simp
  | cons head rest ih =>
    obtain ⟨other, inner⟩ := head
    rw [List.map_cons, List.nodup_cons] at h
    by_cases hname : name = other
    · subst hname
      have hrest : (name, entry) ∉ rest := fun hmem =>
        h.1 (List.mem_map.2 ⟨(name, entry), hmem, rfl⟩)
      simp [hrest, eq_comm]
    · rw [List.lookup_cons, beq_false_of_ne hname, ← ih h.2]
      simp [hname]

/-- A path leads on from an entry of a directory. -/
theorem follow_cons_eq_ok_iff (h : (entries.map (·.1)).Nodup) {above : List FileEntry}
    {part : String} (hpart : part ≠ "..") {rest : List String} {target : FileEntry} :
    follow above (.directory entries) (part :: rest) = .ok target ↔
      ∃ next, (part, next) ∈ entries ∧
        follow (.directory entries :: above) next rest = .ok target := by
  simp only [mem_iff_lookup_eq_some h, follow, if_neg hpart]
  cases entries.lookup part <;> simp

/-- No path leads on from a file. -/
theorem follow_ne_ok_of_isFile {above : List FileEntry} {entry : FileEntry}
    (hfile : entry.isFile = true) {parts : List String} (h : parts ≠ []) (target : FileEntry) :
    follow above entry parts ≠ .ok target := by
  cases parts with
  | nil => exact absurd rfl h
  | cons part rest =>
    cases entry with
    | file bytes => simp [follow]
    | locked => simp [follow]
    | directory entries => cases hfile

/-- What a path leads to, seen from where another path ends. -/
theorem follow_append {above : List FileEntry} {entry target : FileEntry} {front : List String}
    (h : follow above entry front = .ok target) :
    ∃ onTheWay, ∀ rest, follow above entry (front ++ rest) = follow onTheWay target rest := by
  induction front generalizing above entry with
  | nil =>
    obtain rfl := Except.ok.inj h
    exact ⟨above, fun rest => rfl⟩
  | cons part front ih =>
    cases entry with
    | file bytes => cases h
    | locked => cases h
    | directory entries =>
      simp only [List.cons_append, follow] at h ⊢
      -- A step back goes to the parent, any other one to an entry of the directory.
      by_cases hback : part = ".."
      · simp only [if_pos hback] at h ⊢
        cases above with
        | nil => exact ih h
        | cons parent others => exact ih h
      · simp only [if_neg hback] at h ⊢
        cases hnext : entries.lookup part with
        | none => simp [hnext] at h
        | some next =>
          simp only [hnext] at h ⊢
          exact ih h

end FileEntry

/-- The path to what parts lead to below a path. -/
def Path.descend (p : Path) (parts : List String) : Path := { p with parts := p.parts ++ parts }

theorem Path.descend_injective (p : Path) : Function.Injective p.descend := by
  intro parts others h
  exact List.append_cancel_left (congrArg Path.parts h)

/-- Parts below a path are parts below the directory that it means. -/
theorem Path.parts_append_descend (directory p : Path) (parts : List String) :
    (directory ++ p.descend parts).parts = (directory ++ p).parts ++ parts := by
  change (append directory (p.descend parts)).parts = (append directory p).parts ++ parts
  have habsolute : (p.descend parts).isAbsolute = p.isAbsolute := rfl
  rw [append, append, habsolute]
  split
  · rfl
  · exact (List.append_assoc _ _ _).symm

/-- What stands below the directory at a path. -/
theorem Disk.find_descend {disk : Disk} {path : Path} {entry : FileEntry}
    (h : disk.find path = .ok entry) :
    ∃ above, ∀ parts, disk.find (path.descend parts) = FileEntry.follow above entry parts := by
  obtain ⟨above, habove⟩ := FileEntry.follow_append h
  refine ⟨above, fun parts => ?_⟩
  rw [find, Path.parts_append_descend, habove]

end PackageLint
