import ZeroFeed.Core.ByteString

/-!
# Files and open handles

A store maps paths to contents and every open handle to a path and an offset.
Writing replaces bytes from the handle's offset on, so a handle that created its
file and is the only one to write to it appends.
-/

namespace ZeroFeed.FileSystem

open ZeroFeed.ByteString

structure Store (Path Handle : Type*) where
  files : Path → Option Bytes
  handles : Handle → Option (Path × ℕ)

/-- The content after a write at an offset; a gap is filled with zeros. -/
def overwrite (content : Bytes) (offset : ℕ) (chunk : Bytes) : Bytes :=
  content.takeD offset 0 ++ chunk ++ content.drop (offset + chunk.length)

theorem overwrite_length (content chunk : Bytes) :
    overwrite content content.length chunk = content ++ chunk := by
  have hdrop : content.drop (content.length + chunk.length) = [] :=
    List.drop_eq_nil_of_le (Nat.le_add_right _ _)
  rw [overwrite, takeD_eq_take le_rfl, List.take_length, hdrop, List.append_nil]

namespace Store

variable {Path Handle : Type*} [DecidableEq Path] [DecidableEq Handle]
variable (store : Store Path Handle)

/-- Create or truncate a file and open it. -/
def create (path : Path) (handle : Handle) : Store Path Handle where
  files := Function.update store.files path (some [])
  handles := Function.update store.handles handle (some (path, 0))

def write (handle : Handle) (chunk : Bytes) : Store Path Handle :=
  match store.handles handle with
  | none => store
  | some (path, offset) =>
      { files := Function.update store.files path
          (some (overwrite ((store.files path).getD []) offset chunk))
        handles := Function.update store.handles handle (some (path, offset + chunk.length)) }

def close (handle : Handle) : Store Path Handle :=
  { store with handles := Function.update store.handles handle none }

variable {store}

/-- An open handle at the end of a file with this content. -/
structure AtEnd (store : Store Path Handle) (handle : Handle) (path : Path) (content : Bytes) :
    Prop where
  handle : store.handles handle = some (path, content.length)
  file : store.files path = some content

theorem atEnd_create (path : Path) (handle : Handle) :
    AtEnd (store.create path handle) handle path [] :=
  ⟨Function.update_self _ _ _, Function.update_self _ _ _⟩

theorem write_atEnd {handle : Handle} {path : Path} {content : Bytes}
    (hend : AtEnd store handle path content) (chunk : Bytes) :
    store.write handle chunk =
      { files := Function.update store.files path (some (content ++ chunk))
        handles := Function.update store.handles handle
          (some (path, (content ++ chunk).length)) } := by
  rw [write, hend.handle]
  dsimp only
  rw [hend.file, Option.getD_some, overwrite_length, List.length_append]

theorem AtEnd.write {handle : Handle} {path : Path} {content : Bytes}
    (hend : AtEnd store handle path content) (chunk : Bytes) :
    AtEnd (store.write handle chunk) handle path (content ++ chunk) := by
  rw [write_atEnd hend]
  exact ⟨Function.update_self _ _ _, Function.update_self _ _ _⟩

/-! ## Steps that concern one path -/

/-- Other files, and the handles open on them, are as before. -/
structure Confined (path : Path) (store store' : Store Path Handle) : Prop where
  files : ∀ other ≠ path, store'.files other = store.files other
  handles : ∀ handle other offset, other ≠ path → store.handles handle = some (other, offset) →
    store'.handles handle = some (other, offset)

omit [DecidableEq Path] [DecidableEq Handle] in
theorem AtEnd.of_confined {path other : Path} {store' : Store Path Handle} {handle : Handle}
    {content : Bytes} (hconfined : Confined path store store') (hother : other ≠ path)
    (hend : AtEnd store handle other content) : AtEnd store' handle other content :=
  ⟨hconfined.handles handle other _ hother hend.handle,
    (hconfined.files other hother).trans hend.file⟩

omit [DecidableEq Path] [DecidableEq Handle] in
/-- A handle open on another file is another handle. -/
theorem AtEnd.ne_of_handles {handle held : Handle} {path other : Path} {content : Bytes}
    {offset : ℕ} (hend : AtEnd store handle path content) (hother : other ≠ path)
    (hheld : store.handles held = some (other, offset)) : held ≠ handle := by
  rintro rfl
  rw [hend.handle, Option.some.injEq, Prod.mk.injEq] at hheld
  exact hother hheld.1.symm

/-- Creating a file with a handle that was not open. -/
theorem confined_create {path : Path} {handle : Handle} (hfree : store.handles handle = none) :
    Confined path store (store.create path handle) where
  files other hother := Function.update_of_ne hother _ _
  handles held other offset _ hheld := by
    have hne : held ≠ handle := by
      rintro rfl
      rw [hfree] at hheld
      cases hheld
    exact (Function.update_of_ne hne _ _).trans hheld

theorem confined_write {handle : Handle} {path : Path} {content : Bytes}
    (hend : AtEnd store handle path content) (chunk : Bytes) :
    Confined path store (store.write handle chunk) := by
  rw [write_atEnd hend]
  constructor
  · intro other hother
    exact Function.update_of_ne hother _ _
  · intro held other offset hother hheld
    exact (Function.update_of_ne (hend.ne_of_handles hother hheld) _ _).trans hheld

omit [DecidableEq Path] in
theorem confined_close {handle : Handle} {path : Path} {content : Bytes}
    (hend : AtEnd store handle path content) : Confined path store (store.close handle) where
  files _ _ := rfl
  handles _ _ _ hother hheld :=
    (Function.update_of_ne (hend.ne_of_handles hother hheld) _ _).trans hheld

end Store

end ZeroFeed.FileSystem
